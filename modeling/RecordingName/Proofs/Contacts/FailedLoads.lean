import RecordingName.Proofs.Contacts.BestMatch

/-!
# Loads that fail

A load that fails on the way keeps the entries that it has met by then, and the next one adds to
them. So it leaves the cache as it was exactly if it has met no new number, and a look-up whose load
fails finds the best match among all that the failed loads have met: `lookup_of_failed_load`.
-/

namespace RecordingName.Contacts

/-- The number of an entry is that of one of the first entries. -/
theorem exists_mem_firstPerNumber {entries : Entries} {entry : Text × Text}
    (member : entry ∈ entries) : ∃ first ∈ firstPerNumber entries, first.1 = entry.1 := by
  induction entries with
  | nil => cases member
  | cons head rest ih =>
      by_cases same : entry.1 = head.1
      · exact ⟨head, List.mem_cons_self .., same.symm⟩
      · have later : entry ∈ rest :=
          (List.mem_cons.1 member).resolve_left fun equal => same (congrArg _ equal)
        obtain ⟨first, listed, shared⟩ := ih later
        have kept : first ∈ (firstPerNumber rest).filter (·.1 ≠ head.1) :=
          List.mem_filter.2 ⟨listed, decide_eq_true (shared ▸ same)⟩
        exact ⟨first, List.mem_cons_of_mem _ kept, shared⟩

/-- Keeping entries changes nothing exactly if all their numbers have a name already. -/
theorem Cache.keep_eq_self_iff {cache : Cache} {entries : Entries} :
    cache.keep entries = cache ↔ ∀ entry ∈ entries, entry.1 ∈ cache.keys := by
  -- What is new comes behind the old entries, and is the first of its number among those offered.
  have listed := cache.entries_keep entries
  constructor
  · intro same entry member
    obtain ⟨first, early, shared⟩ := exists_mem_firstPerNumber member
    rw [same, List.self_eq_append_right, List.filter_eq_nil_iff] at listed
    have present := listed first early
    rw [decide_eq_true_eq, Decidable.not_not] at present
    exact shared ▸ present
  · intro present
    have none_new : (firstPerNumber entries).filter (·.1 ∉ cache.keys) = [] :=
      List.filter_eq_nil_iff.2 fun first early => by
        simpa using present first (mem_of_mem_firstPerNumber early)
    rw [none_new, List.append_nil] at listed
    exact Register.eq_of_entries listed

section Fetching

/-- Replies that serve all pages up to the last one, without a fault. -/
inductive Completes : List Reply → Prop where
  | last {page : Page} (rest : List Reply) (faultless : page.entries.2 = none)
      (ends : page.nextToken.filter (· ≠ []) = none) : Completes (.page page :: rest)
  | next {page : Page} {token : Text} {rest : List Reply} (faultless : page.entries.2 = none)
      (goes_on : page.nextToken.filter (· ≠ []) = some token) (behind : Completes rest) :
      Completes (.page page :: rest)

/-- The entries that are met in replies up to the last page or the first failure. -/
def entriesMet : List Reply → Entries
  | [] => []
  | .connectionFailure _ :: _ => []
  | .httpFailure _ :: _ => []
  | .page page :: rest =>
      page.entries.1 ++
        match page.entries.2, page.nextToken.filter (· ≠ []) with
        | none, some _ => entriesMet rest
        | _, _ => []

/-- Whatever its ending, fetching keeps what it has met. -/
theorem cache_fetch (cache : Cache) (requested : List (Option Text)) (token : Option Text)
    (replies : List Reply) :
    (fetch cache requested token replies).1.cache = cache.keep (entriesMet replies) := by
  induction replies generalizing cache requested token with
  | nil => rfl
  | cons reply rest ih =>
      cases reply with
      | connectionFailure => rfl
      | httpFailure => rfl
      | page page =>
          simp only [fetch, entriesMet]
          cases fault : page.entries.2 with
          | some _ => simp
          | none =>
              cases next : page.nextToken.filter (· ≠ []) with
              | none => simp
              | some _ => rw [Cache.keep_append, ih]

/-- Fetching does not fail exactly if the replies serve all pages. -/
theorem fetch_eq_none_iff (cache : Cache) (requested : List (Option Text)) (token : Option Text)
    (replies : List Reply) :
    (fetch cache requested token replies).2 = none ↔ Completes replies := by
  induction replies generalizing cache requested token with
  | nil => exact iff_of_false (Option.some_ne_none _) nofun
  | cons reply rest ih =>
      cases reply with
      | connectionFailure => exact iff_of_false (Option.some_ne_none _) nofun
      | httpFailure => exact iff_of_false (Option.some_ne_none _) nofun
      | page page =>
          simp only [fetch]
          cases fault : page.entries.2 with
          | some failure =>
              refine iff_of_false (Option.some_ne_none _) ?_
              rintro (⟨_, faultless, _⟩ | ⟨faultless, _, _⟩)
              · simp [faultless] at fault
              · simp [faultless] at fault
          | none =>
              cases next : page.nextToken.filter (· ≠ []) with
              | none => exact iff_of_true rfl (.last rest fault next)
              | some token =>
                  refine (ih ..).trans ⟨.next fault next, ?_⟩
                  rintro (⟨_, _, ends⟩ | ⟨_, _, behind⟩)
                  · rw [ends] at next
                    cases next
                  · exact behind

/-- Whether all entries are under numbers as they are compared. -/
def AreCompared (entries : Entries) : Prop :=
  ∀ entry ∈ entries, ∃ number, entry.1 = comparable number

theorem AreCompared.nil : AreCompared [] := fun _ member => by cases member

theorem AreCompared.append {first second : Entries} (front : AreCompared first)
    (behind : AreCompared second) : AreCompared (first ++ second) := fun entry member =>
  (List.mem_append.1 member).elim (front entry) (behind entry)

/-- The numbers of a person are entered in the form in which numbers are compared. -/
theorem areCompared_phoneEntries (name : Text) (phones : List PhoneEntry) :
    AreCompared (phoneEntries name phones).1 := by
  induction phones with
  | nil => exact .nil
  | cons phone rest ih =>
      cases phone with
      | nothing => exact .nil
      | withoutNumber => exact .nil
      | number number =>
          rw [phoneEntries]
          split
          · exact ih
          · have own : AreCompared [(comparable number, name)] := fun entry member =>
              ⟨number, by rw [List.mem_singleton.1 member]⟩
            exact own.append ih

/-- So are the entries of a person. -/
theorem areCompared_person (person : Person) : AreCompared person.entries.1 := by
  rw [Person.entries]
  split
  · exact .nil
  · exact .nil
  · exact .nil
  · split
    · exact .nil
    · exact areCompared_phoneEntries _ _

/-- So are the entries of a page. -/
theorem areCompared_peopleEntries (people : List (Option Person)) :
    AreCompared (peopleEntries people).1 := by
  induction people with
  | nil => exact .nil
  | cons first rest ih =>
      cases first with
      | none => exact .nil
      | some person =>
          have own := areCompared_person person
          rw [peopleEntries]
          split
          next read =>
            rw [read] at own
            exact own
          next read =>
            rw [read] at own
            exact own.append ih

/-- Entries that are met are under numbers as they are compared. -/
theorem areCompared_entriesMet (replies : List Reply) : AreCompared (entriesMet replies) := by
  induction replies with
  | nil => exact .nil
  | cons reply rest ih =>
      cases reply with
      | connectionFailure => exact .nil
      | httpFailure => exact .nil
      | page page =>
          have own : AreCompared page.entries.1 := by
            rw [Page.entries]
            split
            · exact .nil
            · exact areCompared_peopleEntries _
          rw [entriesMet]
          split
          · exact own.append ih
          · exact own.append .nil

end Fetching

namespace Account

/-- Whether loading an account gets all pages: it connects, and they are all served. -/
def CanLoad (account : Account) : Prop :=
  account.connect.value = true ∧ Completes account.replies

/-- The entries that loading an account meets. -/
def met (account : Account) : Entries :=
  if account.loaded = false ∧ account.connect.value = true then entriesMet account.replies else []

/-- Loading keeps what it has met. -/
theorem cache_load (account : Account) :
    account.load.account.cache = account.cache.keep account.met := by
  obtain ⟨grants, connected, connection⟩ := account.connect_account
  rw [load, met]
  by_cases loaded : account.loaded = true
  · rw [if_pos loaded, if_neg fun unloaded => by simp [loaded] at unloaded]
    rfl
  · by_cases connects : account.connect.value = true
    · rw [if_neg loaded, if_pos connects, if_pos ⟨Bool.eq_false_iff.2 loaded, connects⟩]
      simp only [connection, cache_fetch]
    · rw [if_neg loaded, if_neg connects, if_neg fun both => connects both.2, connection]
      rfl

/-- An account that has not been loaded is loaded behind a load that gets all pages, and behind no
other. -/
theorem loaded_load_iff {account : Account} (unloaded : account.loaded = false) :
    account.load.account.loaded = true ↔ account.CanLoad := by
  obtain ⟨grants, connected, connection⟩ := account.connect_account
  rw [load, if_neg (by simp [unloaded]), CanLoad]
  by_cases connects : account.connect.value = true
  · rw [if_pos connects]
    simp only [connection, connects, true_and, ← fetch_eq_none_iff account.cache account.requested
      none account.replies, Option.isNone_iff_eq_none]
  · rw [if_neg connects, connection]
    simp [connects, unloaded]

/-- What can be done with an account. -/
inductive Action where
  | lookUp (number : Text) (isSip : Bool)
  | load
  | askCredentials
  deriving DecidableEq, Repr

/-- An account behind an action. -/
def perform (account : Account) : Action → Account
  | .lookUp number isSip => (account.lookup number isSip).account
  | .load => account.load.account
  | .askCredentials => account.credentials.account

/-- An account behind actions. -/
def behind (account : Account) (actions : List Action) : Account :=
  actions.foldl perform account

/-- The entries that an action meets. -/
def metBy (account : Account) : Action → Entries
  | .lookUp number isSip => if number = [] ∨ isSip then [] else account.met
  | .load => account.met
  | .askCredentials => []

/-- The entries that actions meet, one behind the other. -/
def metDuring (account : Account) : List Action → Entries
  | [] => []
  | action :: others => account.metBy action ++ (account.perform action).metDuring others

/-- A look-up loads the account and searches it, unless there is no number or it is the address of
an internet call. -/
theorem lookup_eq (account : Account) (number : Text) (isSip : Bool) :
    (account.lookup number isSip).account =
        (if number = [] ∨ isSip then account else account.load.account) ∧
      (account.lookup number isSip).value =
        if number = [] ∨ isSip then none
        else findName account.load.account.cache (comparable number) := by
  rw [lookup]
  by_cases silent : number = []
  · simp [silent]
  · cases isSip with
    | true => simp [silent]
    | false => simp [silent]

/-- Each action keeps what it has met. -/
theorem cache_perform (account : Account) (action : Action) :
    (account.perform action).cache = account.cache.keep (account.metBy action) := by
  cases action with
  | lookUp number isSip =>
      rw [perform, (account.lookup_eq number isSip).1, metBy]
      split
      · rfl
      · exact account.cache_load
  | load => exact account.cache_load
  | askCredentials =>
      rw [perform, credentials]
      split <;> rfl

/-- Actions keep what they have met. -/
theorem cache_behind (account : Account) (actions : List Action) :
    (account.behind actions).cache = account.cache.keep (account.metDuring actions) := by
  induction actions generalizing account with
  | nil => rfl
  | cons action others ih =>
      rw [metDuring, Cache.keep_append, ← cache_perform]
      exact ih (account.perform action)

/-- So are the entries that one load meets before it ends or fails. -/
theorem areCompared_met (account : Account) : AreCompared account.met := by
  rw [met]
  split
  · exact areCompared_entriesMet _
  · exact .nil

/-- So are the entries that all loads of a run meet. -/
theorem areCompared_metDuring (account : Account) (actions : List Action) :
    AreCompared (account.metDuring actions) := by
  induction actions generalizing account with
  | nil => exact .nil
  | cons action others ih =>
      refine AreCompared.append ?_ (ih _)
      cases action with
      | lookUp number isSip =>
          rw [metBy]
          split
          · exact .nil
          · exact account.areCompared_met
      | load => exact account.areCompared_met
      | askCredentials => exact .nil

/-- What is kept behind actions and another load. -/
theorem entries_load_behind (settings : Settings) (network : Network) (actions : List Action) :
    ((start settings network).behind actions).load.account.cache.entries =
      firstPerNumber ((start settings network).metDuring actions ++
        ((start settings network).behind actions).met) := by
  rw [cache_load, cache_behind, ← Cache.keep_append]
  exact Cache.entries_keep_empty _

end Account

/-- An attempt to load that fails, whatever was done before: the account is not loaded, and it keeps
all that the attempt has met, so that the cache is as it was exactly if no number was new. A look-up
finds the best match among the entries that this attempt and those before it have met. -/
theorem lookup_of_failed_load {settings : Settings} {network : Network}
    {actions : List Account.Action} {account : Account} {earlier : Entries}
    (reached : (Account.start settings network).behind actions = account)
    (met : (Account.start settings network).metDuring actions = earlier)
    (unloaded : account.loaded = false) (fails : ¬ account.CanLoad) :
    account.load.account.loaded = false ∧
    account.load.account.cache.entries = firstPerNumber (earlier ++ account.met) ∧
    (account.load.account.cache = account.cache ↔
      ∀ entry ∈ account.met, entry.1 ∈ account.cache.keys) ∧
    ∀ number isSip, (account.lookup number isSip).account.loaded = false ∧
      (account.lookup number isSip).value =
        if number = [] ∨ isSip then none
        else bestMatch (firstPerNumber (earlier ++ account.met)) (comparable number) := by
  have still_unloaded : account.load.account.loaded = false :=
    Bool.eq_false_iff.2 fun loaded => fails ((Account.loaded_load_iff unloaded).1 loaded)
  have kept : account.load.account.cache.entries = firstPerNumber (earlier ++ account.met) := by
    subst reached met
    exact Account.entries_load_behind settings network actions
  refine ⟨still_unloaded, kept, ?_, fun number isSip => ?_⟩
  · rw [account.cache_load]
    exact Cache.keep_eq_self_iff
  · obtain ⟨behind, value⟩ := account.lookup_eq number isSip
    rw [behind, value]
    by_cases skipped : number = [] ∨ isSip
    · rw [if_pos skipped, if_pos skipped, if_pos skipped]
      exact ⟨unloaded, rfl⟩
    · rw [if_neg skipped, if_neg skipped, if_neg skipped, ← kept]
      refine ⟨still_unloaded, findName_eq_bestMatch (length_comparable_le number) ?_⟩
      intro entry member
      have compared : AreCompared (earlier ++ account.met) := by
        subst reached met
        exact (Account.areCompared_metDuring _ _).append (Account.areCompared_met _)
      obtain ⟨listed, shape⟩ := compared entry (mem_of_mem_firstPerNumber (kept ▸ member))
      rw [shape]
      exact length_comparable_le listed

/-- A network where two attempts to load each break off behind a page with one contact. -/
def brokenNetwork : Network where
  grants := [.granted]
  replies := [.page (.of (twoContacts.take 1) (some ['2'])), .httpFailure "403".text,
    .page (.of (twoContacts.drop 1) (some ['2'])), .connectionFailure "connection reset".text]
  outage := "connection reset".text

/-- An account whose first attempt to load has failed. -/
def brokenOnce : Account :=
  (Account.start openSettings brokenNetwork).behind [.load]

/-- The second attempt fails as well, and the contacts that the two have met are told apart. -/
theorem lookup_of_failed_load_again :
    brokenOnce.loaded = false ∧ ¬ brokenOnce.CanLoad ∧
    (brokenOnce.lookup "123-4567".text false).value = some "Bob".text := by
  have unloaded : brokenOnce.loaded = false := by decide
  have fails : ¬ brokenOnce.CanLoad := fun able =>
    absurd ((Account.loaded_load_iff unloaded).2 able) (by decide)
  obtain ⟨_, _, _, value⟩ := lookup_of_failed_load rfl rfl unloaded fails
  have best : bestMatch (firstPerNumber
      ((Account.start openSettings brokenNetwork).metDuring [.load] ++ brokenOnce.met))
      (comparable "123-4567".text) = some "Bob".text := by decide
  exact ⟨unloaded, fails, (value "123-4567".text false).2.trans best⟩

/-- An attempt that fails behind its first page has changed the cache, and the look-up that made it
finds a name. -/
theorem name_found_by_failed_load :
    (Account.start openSettings brokenNetwork).loaded = false ∧
    ¬ (Account.start openSettings brokenNetwork).CanLoad ∧
    (Account.start openSettings brokenNetwork).load.account.cache ≠
      (Account.start openSettings brokenNetwork).cache ∧
    ((Account.start openSettings brokenNetwork).lookup "555-023-4567".text false).value =
      some "Ann".text := by
  refine ⟨rfl, fun able => ?_, fun same => ?_, by decide⟩
  · exact absurd ((Account.loaded_load_iff rfl).2 able) (by decide)
  · exact absurd (congrArg (·.entries.length) same) (by decide)

end RecordingName.Contacts
