import RecordingName.Proofs.Contacts.FailedLoads

/-!
# Loads that are tried again

A load that breaks off keeps a part of the listing, and the next one starts again at the first page.
However often this happens, the first load that gets all pages leaves the same cache as a load that
has never failed, and from then on nothing is requested any more: `load_behind_retries`. Each attempt
makes the first requests of a load, by `requestTokens`.
-/

namespace RecordingName.Contacts

/-- The pages of a listing: each can be read without a fault, and only the last has no token of a
page behind it. -/
inductive Paged : List Page → Prop where
  | last {page : Page} (faultless : page.entries.2 = none)
      (ends : page.nextToken.filter (· ≠ []) = none) : Paged [page]
  | next {page : Page} {token : Text} {pages : List Page} (faultless : page.entries.2 = none)
      (goes_on : page.nextToken = some token) (nonempty : token ≠ []) (rest : Paged pages) :
      Paged (page :: pages)

/-- The pages by which contacts are listed are pages of a listing. -/
theorem Listing.paged {pages : List Page} {contacts : List Contact}
    (listing : Listing pages contacts) : Paged pages := by
  induction listing with
  | last contacts ends => exact .last (congrArg Prod.snd (Page.entries_of ..)) ends
  | next contacts nonempty _ ih =>
      exact .next (congrArg Prod.snd (Page.entries_of ..)) rfl nonempty ih

/-- The entries of pages, in order. -/
def pageEntries (pages : List Page) : Entries :=
  pages.flatMap (·.entries.1)

theorem pageEntries_cons (page : Page) (pages : List Page) :
    pageEntries (page :: pages) = page.entries.1 ++ pageEntries pages := rfl

/-- The tokens of the first requests of a load: none, and then that of the page just served. -/
def requestTokens (pages : List Page) (count : Nat) : List (Option Text) :=
  (none :: pages.map (·.nextToken)).take count

/-- Replies that do not serve the next page. -/
inductive Unanswered : List Reply → Prop where
  | exhausted : Unanswered []
  | connection (words : Text) (rest : List Reply) : Unanswered (.connectionFailure words :: rest)
  | http (words : Text) (rest : List Reply) : Unanswered (.httpFailure words :: rest)

namespace Cache

/-- Entries that are all there already change nothing. -/
theorem keep_keep_of_prefix (cache : Cache) {first second : Entries} (early : second <+: first) :
    (cache.keep first).keep second = cache.keep first := by
  refine keep_eq_self_iff.2 fun entry member => ?_
  obtain ⟨listed, kept, shared⟩ := exists_mem_firstPerNumber (early.subset member)
  rw [Register.keys, entries_keep, List.map_append, List.mem_append]
  by_cases known : entry.1 ∈ cache.keys
  · exact .inl known
  · refine .inr (List.mem_map.2 ⟨listed, List.mem_filter.2 ⟨kept, ?_⟩, shared⟩)
    rwa [shared, decide_eq_true_eq]

/-- Keeping a front of entries first makes no difference. -/
theorem keep_keep_of_front (cache : Cache) {first second : Entries} (early : first <+: second) :
    (cache.keep first).keep second = cache.keep second := by
  obtain ⟨rest, rfl⟩ := early
  rw [keep_append, cache.keep_keep_of_prefix List.prefix_rfl, keep_append]

end Cache

section Fetching

variable {pages : List Page} {rest : List Reply} {served : Nat} {page : Page} {token : Text}

/-- Behind a page that can be read, the next one is requested by its token. -/
theorem fetch_page (faultless : page.entries.2 = none) (goes_on : page.nextToken = some token)
    (nonempty : token ≠ []) (cache : Cache) (requested : List (Option Text))
    (asked : Option Text) (rest : List Reply) :
    fetch cache requested asked (.page page :: rest) =
      fetch (cache.keep page.entries.1) (requested ++ [asked]) page.nextToken rest := by
  have more : (some token).filter (· ≠ []) = some token := by simp [nonempty]
  rw [fetch, faultless, goes_on, more]

/-- Nothing is requested behind a page that is the last. -/
theorem fetch_last_page (faultless : page.entries.2 = none)
    (ends : page.nextToken.filter (· ≠ []) = none) (cache : Cache)
    (requested : List (Option Text)) (asked : Option Text) (rest : List Reply) :
    fetch cache requested asked (.page page :: rest) =
      (⟨cache.keep page.entries.1, requested ++ [asked], rest⟩, none) := by
  rw [fetch, faultless, ends]

/-- A request without an answer ends the fetching. -/
theorem fetch_of_unanswered (unanswered : Unanswered rest) (cache : Cache)
    (requested : List (Option Text)) (asked : Option Text) :
    ∃ left failure,
      fetch cache requested asked rest = (⟨cache, requested ++ [asked], left⟩, some failure) := by
  cases unanswered with
  | exhausted => exact ⟨_, _, rfl⟩
  | connection words rest => exact ⟨_, _, rfl⟩
  | http words rest => exact ⟨_, _, rfl⟩

/-- The pages that are served are kept, and the request behind them fails. -/
theorem fetch_take (paged : Paged pages) (fewer : served < pages.length)
    (unanswered : Unanswered rest) (cache : Cache) (requested : List (Option Text))
    (asked : Option Text) :
    ∃ left failure,
      fetch cache requested asked ((pages.take served).map .page ++ rest) =
        (⟨cache.keep (pageEntries (pages.take served)),
          requested ++ (asked :: pages.map (·.nextToken)).take (served + 1), left⟩,
          some failure) := by
  induction paged generalizing served cache requested asked with
  | last faultless ends =>
      obtain rfl : served = 0 := by simpa using fewer
      exact fetch_of_unanswered unanswered cache requested asked
  | @next page token pages faultless goes_on nonempty _ ih =>
      cases served with
      | zero => exact fetch_of_unanswered unanswered cache requested asked
      | succ served =>
          obtain ⟨left, failure, fetched⟩ := ih (Nat.lt_of_succ_lt_succ fewer)
            (cache.keep page.entries.1) (requested ++ [asked]) page.nextToken
          refine ⟨left, failure, ?_⟩
          rw [List.take_succ_cons, List.map_cons, List.cons_append,
            fetch_page faultless goes_on nonempty, fetched, pageEntries_cons, Cache.keep_append,
            List.map_cons, List.take_succ_cons, List.append_assoc]
          rfl

/-- All pages of a listing are fetched if they are served. -/
theorem fetch_paged (paged : Paged pages) (cache : Cache) (requested : List (Option Text))
    (asked : Option Text) (rest : List Reply) :
    fetch cache requested asked (pages.map .page ++ rest) =
      (⟨cache.keep (pageEntries pages),
        requested ++ (asked :: pages.map (·.nextToken)).take pages.length, rest⟩, none) := by
  induction paged generalizing cache requested asked with
  | @last page faultless ends =>
      rw [List.map_singleton, List.singleton_append, fetch_last_page faultless ends, pageEntries,
        List.flatMap_singleton]
      rfl
  | @next page token pages faultless goes_on nonempty _ ih =>
      rw [List.map_cons, List.cons_append, fetch_page faultless goes_on nonempty, ih,
        pageEntries_cons, Cache.keep_append, List.map_cons, List.length_cons, List.take_succ_cons,
        List.append_assoc]
      rfl

end Fetching

namespace Account

/-- Whether an action loads the contacts, if they have not been loaded. -/
def Action.Loads : Action → Prop
  | .lookUp number isSip => number ≠ [] ∧ isSip = false
  | .load => True
  | .askCredentials => False

/-- Whether loading an account gets all the pages of a listing. -/
structure Gets (pages : List Page) (account : Account) : Prop where
  connects : account.connect.value = true
  served : ∃ rest, account.replies = pages.map .page ++ rest

/-- The accounts that failing attempts to load the pages of a listing lead to, with the number of
requests that each of the attempts has made. An attempt fails because the credentials are refused,
or because a request behind the first `served` pages is not answered. -/
inductive Retries (pages : List Page) (first : Account) : List Nat → Account → Prop where
  | start : Retries pages first [] first
  | idle {counts : List Nat} {account : Account} (prior : Retries pages first counts account)
      (action : Action) (idle : ¬ action.Loads) :
      Retries pages first counts (account.perform action)
  | refused {counts : List Nat} {account : Account} (prior : Retries pages first counts account)
      (action : Action) (attempt : action.Loads) (refused : account.connect.value = false) :
      Retries pages first (counts ++ [0]) (account.perform action)
  | unanswered {counts : List Nat} {account : Account} {rest : List Reply}
      (prior : Retries pages first counts account) (action : Action) (attempt : action.Loads)
      (connects : account.connect.value = true) (served : Nat) (fewer : served < pages.length)
      (unanswered : Unanswered rest)
      (replies : account.replies = (pages.take served).map .page ++ rest) :
      Retries pages first (counts ++ [served + 1]) (account.perform action)

/-- What failing attempts to load the pages of a listing leave behind: nothing counts as loaded, a
front of the entries is kept, and each attempt has made its first requests. -/
structure PartlyLoaded (pages : List Page) (counts : List Nat) (account : Account) : Prop where
  unloaded : account.loaded = false
  kept : ∃ front, front <+: pageEntries pages ∧ account.cache = Cache.keep .empty front
  requested : account.requested = counts.flatMap (requestTokens pages)

variable {account : Account} {action : Action} {pages : List Page} {counts : List Nat}

/-- An action that loads does nothing else to the account. -/
theorem perform_of_loads (loads : action.Loads) :
    account.perform action = account.load.account := by
  cases action with
  | lookUp number isSip =>
      obtain ⟨nonempty, plain⟩ := loads
      rw [perform, (account.lookup_eq number isSip).1, if_neg (by simp [nonempty, plain])]
  | load => rfl
  | askCredentials => cases loads

/-- Any other action changes no more than the credentials to come. -/
theorem perform_of_not_loads (idle : ¬ action.Loads) :
    ∃ grants, account.perform action = { account with grants } := by
  cases action with
  | lookUp number isSip =>
      have skipped : number = [] ∨ isSip = true := by
        by_contra neither
        exact idle (by simpa [Action.Loads] using neither)
      rw [perform, (account.lookup_eq number isSip).1, if_pos skipped]
      exact ⟨_, rfl⟩
  | load => exact absurd trivial idle
  | askCredentials =>
      rw [perform, credentials]
      split
      · exact ⟨_, rfl⟩
      · exact ⟨_, rfl⟩

/-- A load that is refused the credentials requests nothing. -/
theorem load_of_refused (unloaded : account.loaded = false)
    (refused : account.connect.value = false) :
    ∃ grants connected, account.load.account = { account with grants, connected } := by
  rw [load, if_neg (by simp [unloaded]), if_neg (by simp [refused])]
  exact account.connect_account

/-- A load that connects fetches pages. -/
theorem load_of_connects (unloaded : account.loaded = false)
    (connects : account.connect.value = true) {progress : Progress} {failure : Option LoadFailure}
    (fetched : fetch account.cache account.requested none account.replies = (progress, failure)) :
    ∃ grants connected, account.load.account = { account with
      grants, connected, cache := progress.cache, requested := progress.requested,
      replies := progress.replies, loaded := failure.isNone } := by
  obtain ⟨grants, connected, connection⟩ := account.connect_account
  rw [load, if_neg (by simp [unloaded]), if_pos connects]
  simp only [connection, fetched]
  exact ⟨grants, connected, rfl⟩

/-- A load that gets all pages of a listing has loaded them, with as many requests. -/
theorem Gets.load (paged : Paged pages) (gets : account.Gets pages)
    (unloaded : account.loaded = false) :
    account.load.account.loaded = true ∧
    account.load.account.cache = account.cache.keep (pageEntries pages) ∧
    account.load.account.requested = account.requested ++ requestTokens pages pages.length := by
  obtain ⟨connects, rest, served⟩ := gets
  have fetched := fetch_paged paged account.cache account.requested none rest
  rw [← served] at fetched
  obtain ⟨grants, connected, loaded⟩ := load_of_connects unloaded connects fetched
  rw [loaded]
  exact ⟨rfl, rfl, rfl⟩

/-- A load that gets only the first pages of a listing keeps their entries, with one request more
than there are such pages. -/
theorem load_of_unanswered {served : Nat} {rest : List Reply} (paged : Paged pages)
    (unloaded : account.loaded = false) (connects : account.connect.value = true)
    (fewer : served < pages.length) (unanswered : Unanswered rest)
    (shown : account.replies = (pages.take served).map .page ++ rest) :
    account.load.account.loaded = false ∧
    account.load.account.cache = account.cache.keep (pageEntries (pages.take served)) ∧
    account.load.account.requested = account.requested ++ requestTokens pages (served + 1) := by
  obtain ⟨left, failure, fetched⟩ :=
    fetch_take paged fewer unanswered account.cache account.requested none
  rw [← shown] at fetched
  obtain ⟨grants, connected, loaded⟩ := load_of_connects unloaded connects fetched
  rw [loaded]
  exact ⟨rfl, rfl, rfl⟩

/-- Every failing attempt leaves an account that is loaded in part. -/
theorem Retries.partlyLoaded {first : Account} (paged : Paged pages)
    (fresh : first.PartlyLoaded pages []) (retries : first.Retries pages counts account) :
    account.PartlyLoaded pages counts := by
  induction retries with
  | start => exact fresh
  | idle prior action idle ih =>
      obtain ⟨grants, performed⟩ := perform_of_not_loads idle
      rw [performed]
      exact ⟨ih.unloaded, ih.kept, ih.requested⟩
  | refused prior action attempt refused ih =>
      obtain ⟨grants, connected, loaded⟩ := load_of_refused ih.unloaded refused
      rw [perform_of_loads attempt, loaded]
      refine ⟨ih.unloaded, ih.kept, ?_⟩
      rw [List.flatMap_append, ← ih.requested]
      exact (List.append_nil _).symm
  | unanswered prior action attempt connects served fewer unanswered shown ih =>
      obtain ⟨unloaded, cache, requested⟩ :=
        load_of_unanswered paged ih.unloaded connects fewer unanswered shown
      rw [perform_of_loads attempt]
      refine ⟨unloaded, ?_, ?_⟩
      · -- Of two fronts of the entries one is a front of the other, and the longer one is kept.
        obtain ⟨front, early, kept⟩ := ih.kept
        have again : pageEntries (pages.take served) <+: pageEntries pages :=
          ⟨pageEntries (pages.drop served), by
            rw [pageEntries, pageEntries, ← List.flatMap_append, List.take_append_drop]
            rfl⟩
        rw [cache, kept]
        rcases List.prefix_or_prefix_of_prefix early again with fewer_before | more_before
        · exact ⟨_, again, Cache.keep_keep_of_front _ fewer_before⟩
        · exact ⟨_, early, Cache.keep_keep_of_prefix _ more_before⟩
      · rw [requested, ih.requested, List.flatMap_append, List.flatMap_singleton]

/-- Nothing that is done with a loaded account changes more than the credentials to come. -/
theorem perform_of_loaded (loaded : account.loaded = true) (action : Action) :
    ∃ grants, account.perform action = { account with grants } := by
  by_cases loads : action.Loads
  · rw [perform_of_loads loads, load, if_pos loaded]
    exact ⟨_, rfl⟩
  · exact perform_of_not_loads loads

/-- Once the list is there, further actions use up grants and change nothing else. -/
theorem behind_of_loaded (loaded : account.loaded = true) (actions : List Action) :
    ∃ grants, account.behind actions = { account with grants } := by
  induction actions generalizing account with
  | nil => exact ⟨_, rfl⟩
  | cons action others ih =>
      obtain ⟨grants, performed⟩ := perform_of_loaded loaded action
      obtain ⟨left, reached⟩ := @ih { account with grants } loaded
      refine ⟨left, ?_⟩
      rw [behind, List.foldl_cons, performed]
      exact reached

/-- Nothing is loaded of an account about which nothing is known yet. -/
theorem partlyLoaded_start (pages : List Page) (settings : Settings) (network : Network) :
    (start settings network).PartlyLoaded pages [] :=
  ⟨rfl, ⟨[], List.nil_prefix, rfl⟩, rfl⟩

end Account

open Account

/-- Whatever attempts to load the pages of a listing have failed before, and wherever they have, the
first attempt that gets all pages has loaded them: the cache is the one of any account that has
never failed, with the first entry for each number in the order of the listing. Each attempt has
requested its first page without a token and each other page by the token of the one just served,
and nothing is requested or changed any more by what is done later. -/
theorem load_behind_retries {settings : Settings} {network : Network}
    {pages : List Page} {counts : List Nat} {account : Account} {action : Action}
    (paged : Paged pages) (retries : (start settings network).Retries pages counts account)
    (attempt : action.Loads) (gets : account.Gets pages) :
    (account.perform action).loaded = true ∧
    (account.perform action).cache.entries = firstPerNumber (pageEntries pages) ∧
    (∀ others elsewhere, (start others elsewhere).Gets pages →
      (account.perform action).cache = (start others elsewhere).load.account.cache) ∧
    (account.perform action).requested = (counts ++ [pages.length]).flatMap (requestTokens pages) ∧
    ∀ later, ((account.perform action).behind later).cache = (account.perform action).cache ∧
      ((account.perform action).behind later).requested = (account.perform action).requested ∧
      ((account.perform action).behind later).replies = (account.perform action).replies := by
  obtain ⟨unloaded, ⟨front, early, kept⟩, requested⟩ :=
    retries.partlyLoaded paged (partlyLoaded_start pages settings network)
  obtain ⟨loaded, cache, asked⟩ := gets.load paged unloaded
  rw [kept, Cache.keep_keep_of_front _ early] at cache
  rw [perform_of_loads attempt]
  refine ⟨loaded, ?_, ?_, ?_, ?_⟩
  · rw [cache]
    exact Cache.entries_keep_empty _
  · intro others elsewhere clean
    rw [cache, (clean.load paged rfl).2.1]
    rfl
  · rw [asked, requested, List.flatMap_append, List.flatMap_singleton]
  · intro later
    obtain ⟨left, reached⟩ := behind_of_loaded loaded later
    rw [reached]
    exact ⟨rfl, rfl, rfl⟩

/-- A listing of two contacts on two pages. -/
def twoPages : List Page :=
  [.of (twoContacts.take 1) (some ['2']), .of (twoContacts.drop 1) none]

/-- An account that gets its credentials the second time, and all pages the third time. -/
def hesitant : Account :=
  .start openSettings {
    grants := [.refused "offline".text, .granted]
    replies := (twoPages.take 1).map .page ++ .httpFailure "403".text ::
      .connectionFailure "connection reset".text :: twoPages.map .page
    outage := "connection reset".text }

/-- Three attempts fail at three places, and the fourth gets all pages. -/
theorem load_behind_retries_hesitant :
    Paged twoPages ∧
    hesitant.Retries twoPages [0, 2, 1]
      (hesitant.behind [.load, .lookUp "7".text false, .askCredentials, .load]) ∧
    Gets twoPages (hesitant.behind [.load, .lookUp "7".text false, .askCredentials, .load]) ∧
    (hesitant.behind [.load, .lookUp "7".text false, .askCredentials, .load,
      .lookUp "123-4567".text false]).requested =
        [none, some "2".text, none, none, some "2".text] := by
  have paged : Paged twoPages := .next rfl rfl (by decide) (.last rfl rfl)
  have refused : hesitant.Retries twoPages [0] (hesitant.behind [.load]) :=
    .refused .start .load trivial rfl
  have broken : hesitant.Retries twoPages [0, 2]
      (hesitant.behind [.load, .lookUp "7".text false]) :=
    .unanswered refused (.lookUp "7".text false) ⟨by decide, rfl⟩ rfl 1 (by decide)
      (.http _ _) rfl
  have idle : hesitant.Retries twoPages [0, 2]
      (hesitant.behind [.load, .lookUp "7".text false, .askCredentials]) :=
    .idle broken .askCredentials id
  have lost : hesitant.Retries twoPages [0, 2, 1]
      (hesitant.behind [.load, .lookUp "7".text false, .askCredentials, .load]) :=
    .unanswered idle .load trivial rfl 0 (by decide) (.connection _ _) rfl
  have gets : Gets twoPages
      (hesitant.behind [.load, .lookUp "7".text false, .askCredentials, .load]) :=
    ⟨rfl, [], rfl⟩
  obtain ⟨_, _, _, requested, _⟩ :=
    @load_behind_retries _ _ _ _ _ (.lookUp "123-4567".text false) paged lost
      ⟨by decide, rfl⟩ gets
  exact ⟨paged, lost, gets, requested⟩

end RecordingName.Contacts
