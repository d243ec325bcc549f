import RecordingName.Contacts.Account
import RecordingName.Proofs.Register

/-!
# Contacts that are listed in pages

The contacts of an account are listed in pages, each but the last with the token of the one behind
it. If nothing fails, the account keeps the first name for each number in the order of the listing,
wherever one page ends and the next one starts: `Account.Serves.lookUps`.
-/

namespace RecordingName.Contacts

/-- A contact without gaps: its display names and its telephone numbers. -/
structure Contact where
  names : List Text
  numbers : List Text
  deriving DecidableEq, Repr

namespace Contact

/-- A contact as a listing has it. -/
def person (contact : Contact) : Person :=
  ⟨contact.names.map some, contact.numbers.map .number⟩

/-- The name of a contact: the first display name, unless it is empty. -/
def name? (contact : Contact) : Option Text :=
  contact.names.head?.filter (· ≠ [])

/-- The numbers of a contact as they are compared, each with the name. A contact without a name has
none, and a number without digits is left out. -/
def pairs (contact : Contact) : Entries :=
  match contact.name? with
  | none => []
  | some name =>
      ((contact.numbers.map comparable).filter (· ≠ [])).map fun number => (number, name)

end Contact

/-- A page of contacts. -/
def Page.of (contacts : List Contact) (nextToken : Option Text) : Page :=
  ⟨some (contacts.map fun contact => some contact.person), nextToken⟩

/-- The pages by which contacts are listed in their order. The page behind the last one has no
token, or an empty one. -/
inductive Listing : List Page → List Contact → Prop where
  | last (contacts : List Contact) {nextToken : Option Text}
      (ends : nextToken.filter (· ≠ []) = none) : Listing [.of contacts nextToken] contacts
  | next (contacts : List Contact) {token : Text} (goes_on : token ≠ []) {pages : List Page}
      {others : List Contact} (rest : Listing pages others) :
      Listing (.of contacts (some token) :: pages) (contacts ++ others)

/-- The first of the entries with each number, in order. -/
def firstPerNumber : Entries → Entries
  | [] => []
  | entry :: rest => entry :: (firstPerNumber rest).filter (·.1 ≠ entry.1)

/-- What is known from contacts: the first pair for each number. -/
def known (contacts : List Contact) : Entries :=
  firstPerNumber (contacts.flatMap Contact.pairs)

/-- A person whose phones all have numbers is entered under each that can be compared, without a
failure. -/
theorem phoneEntries_numbers (name : Text) (numbers : List Text) :
    phoneEntries name (numbers.map .number) =
      (((numbers.map comparable).filter (· ≠ [])).map fun number => (number, name), none) := by
  induction numbers with
  | nil => rfl
  | cons number rest ih =>
      by_cases silent : comparable number = []
      · simp [phoneEntries, ih, silent]
      · simp [phoneEntries, ih, silent]

/-- A contact is read without a fault. -/
theorem Contact.entries_person (contact : Contact) :
    contact.person.entries = (contact.pairs, none) := by
  obtain ⟨names, numbers⟩ := contact
  cases names with
  | nil => rfl
  | cons name others =>
      cases numbers with
      | nil =>
          rw [pairs]
          split
          · rfl
          · rfl
      | cons number rest =>
          by_cases unnamed : name = []
          · simp [person, Person.entries, pairs, name?, Option.filter, unnamed]
          · have read := phoneEntries_numbers name (number :: rest)
            simpa [person, Person.entries, pairs, name?, Option.filter, unnamed] using read

/-- A page of contacts is read without a fault. -/
theorem Page.entries_of (contacts : List Contact) (nextToken : Option Text) :
    (Page.of contacts nextToken).entries = (contacts.flatMap Contact.pairs, none) := by
  change peopleEntries (contacts.map fun contact => some contact.person) = _
  induction contacts with
  | nil => rfl
  | cons contact rest ih =>
      simp only [List.map_cons, peopleEntries, contact.entries_person, ih, List.flatMap_cons]

namespace Cache

/-- Entries are kept in one go or in two. -/
theorem keep_append (cache : Cache) (first second : Entries) :
    cache.keep (first ++ second) = (cache.keep first).keep second :=
  List.foldl_append

/-- Of the numbers that have no name yet, the first entries are kept. -/
theorem entries_keep (cache : Cache) (entries : Entries) :
    (cache.keep entries).entries =
      cache.entries ++ (firstPerNumber entries).filter (·.1 ∉ cache.keys) := by
  induction entries generalizing cache with
  | nil => simp [keep, firstPerNumber]
  | cons entry rest ih =>
      have fresh : (firstPerNumber rest).filter (·.1 ∉ (cache.putNew entry.1 entry.2).keys) =
          ((firstPerNumber rest).filter (·.1 ≠ entry.1)).filter (·.1 ∉ cache.keys) := by
        rw [List.filter_filter]
        refine List.filter_congr fun other _ => ?_
        simp [Register.mem_keys_putNew]
      calc (cache.keep (entry :: rest)).entries
          = (cache.putNew entry.1 entry.2).entries ++ (firstPerNumber rest).filter
              (·.1 ∉ (cache.putNew entry.1 entry.2).keys) := ih (cache.putNew entry.1 entry.2)
        _ = cache.entries ++ (firstPerNumber (entry :: rest)).filter (·.1 ∉ cache.keys) := by
          rw [fresh, Register.entries_putNew, firstPerNumber, List.filter_cons]
          by_cases present : entry.1 ∈ cache.keys
          · rw [if_pos present, if_neg (by simpa using present)]
          · rw [if_neg present, if_pos (by simpa using present), List.append_assoc]
            rfl

/-- An empty directory keeps the first name of every number. -/
theorem entries_keep_empty (entries : Entries) :
    (keep .empty entries).entries = firstPerNumber entries := by
  rw [entries_keep]
  exact List.filter_eq_self.2 fun _ _ => rfl

end Cache

variable {contacts : List Contact} {pages : List Page}

/-- All pages of a listing are fetched, and their entries kept as if there were one page. -/
theorem fetch_listing (listing : Listing pages contacts) (cache : Cache)
    (requested : List (Option Text)) (token : Option Text) (rest : List Reply) :
    ∃ asked, fetch cache requested token (pages.map .page ++ rest) =
      (⟨cache.keep (contacts.flatMap Contact.pairs), asked, rest⟩, none) := by
  induction listing generalizing cache requested token with
  | last contacts ends =>
      refine ⟨requested ++ [token], ?_⟩
      simp only [List.map_cons, List.map_nil, List.cons_append, List.nil_append, fetch,
        Page.entries_of]
      rw [Page.of, ends]
  | @next contacts next goes_on pages others _ ih =>
      obtain ⟨asked, fetched⟩ := ih (cache.keep (contacts.flatMap Contact.pairs))
        (requested ++ [token]) (some next)
      have more : (some next).filter (· ≠ []) = some next := by simp [goes_on]
      refine ⟨asked, ?_⟩
      rw [List.flatMap_append, Cache.keep_append, ← fetched]
      simp only [List.map_cons, List.cons_append, fetch, Page.entries_of]
      rw [Page.of, more]

namespace Account

variable {account : Account}

/-- Connecting changes the connection and the credentials alone. -/
theorem connect_account (account : Account) :
    ∃ grants connected, account.connect.account = { account with grants, connected } := by
  rw [connect]
  split
  · exact ⟨_, _, rfl⟩
  · rw [credentials]
    split
    · exact ⟨_, _, rfl⟩
    · exact ⟨_, _, rfl⟩

/-- An account that has contacts: nothing is loaded yet, and connecting succeeds and all pages
will be served; or everything is loaded. -/
inductive Serves (contacts : List Contact) (account : Account) : Prop where
  | fresh {pages : List Page} {rest : List Reply} (unloaded : account.loaded = false)
      (empty : account.cache = .empty) (connects : account.connect.value = true)
      (listing : Listing pages contacts) (replies : account.replies = pages.map .page ++ rest)
  | loaded (loaded : account.loaded = true) (kept : account.cache.entries = known contacts)

/-- Behind loading, everything is loaded. -/
theorem Serves.load (serves : Serves contacts account) :
    account.load.account.loaded = true ∧ account.load.account.cache.entries = known contacts := by
  cases serves with
  | loaded loaded kept =>
      rw [Account.load, if_pos loaded]
      exact ⟨loaded, kept⟩
  | @fresh pages rest unloaded empty connects listing replies =>
      obtain ⟨grants, connected, behind⟩ := account.connect_account
      obtain ⟨asked, fetched⟩ := fetch_listing listing .empty account.requested none rest
      rw [Account.load, if_neg (by simp [unloaded]), if_pos connects]
      simp only [behind, empty, replies, fetched]
      exact ⟨rfl, Cache.entries_keep_empty _⟩

/-- A look-up leaves an account that has the same contacts. -/
theorem Serves.lookup (serves : Serves contacts account) (number : Text) (isSip : Bool) :
    Serves contacts (account.lookup number isSip).account := by
  rw [Account.lookup]
  split
  · exact serves
  · split
    · exact serves
    · obtain ⟨loaded, kept⟩ := serves.load
      exact .loaded loaded kept

/-- An account behind look-ups. -/
def lookUps (account : Account) (queries : List (Text × Bool)) : Account :=
  queries.foldl (fun current query => (current.lookup query.1 query.2).account) account

/-- An account has the same contacts behind any look-ups. -/
theorem Serves.lookUps (serves : Serves contacts account) (queries : List (Text × Bool)) :
    Serves contacts (account.lookUps queries) := by
  induction queries generalizing account with
  | nil => exact serves
  | cons query others ih => exact ih (serves.lookup query.1 query.2)

/-- An account about which nothing is known yet has the contacts that its network lists, if it is
configured and gets its credentials. -/
theorem serves_start {settings : Settings} {network : Network} {rest : List Reply}
    (configured : settings.canLookUpContacts = true)
    (granted : network.grants.head? = some .granted) (listing : Listing pages contacts)
    (served : network.replies = pages.map .page ++ rest) :
    Serves contacts (start settings network) := by
  refine .fresh rfl rfl ?_ listing served
  have asks : (start settings network).isConfigured = true := configured
  rw [connect, if_neg (by simp [start]), credentials, if_pos asks]
  simp [start, List.headD_eq_head?_getD, granted, Grant.isGranted]

end Account
end RecordingName.Contacts
