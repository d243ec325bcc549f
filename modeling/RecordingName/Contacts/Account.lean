import RecordingName.Register
import RecordingName.Settings
import RecordingName.Text.Decimal

/-!
# Contacts of an account

The contacts of an account come in pages. They are loaded on the first look-up and
kept under the last digits of their numbers; a number that was kept first keeps
its name. Loading may fail at any page, and is tried again by the next look-up.
`lookup_sip` and `lookup_empty` say which numbers are never looked up.
-/

namespace RecordingName.Contacts

/-- An entry among the telephone numbers of a person. It may be missing its number, or
be nothing at all. -/
inductive PhoneEntry where
  | number (number : Text)
  | withoutNumber
  | nothing
  deriving DecidableEq, Repr

/-- A person of a listing: the display names, which may have gaps, and the entries of
telephone numbers. -/
structure Person where
  names : List (Option Text)
  phones : List PhoneEntry
  deriving DecidableEq, Repr

/-- A page of a listing, which may lack its list of people or have gaps in it, and the
token of the page behind it. -/
structure Page where
  people : Option (List (Option Person))
  nextToken : Option Text
  deriving DecidableEq, Repr

/-- The answer of the network to a request for a page, or the words of its failure. -/
inductive Reply where
  | page (page : Page)
  | connectionFailure (words : Text)
  | httpFailure (words : Text)
  deriving DecidableEq, Repr

/-- The answer of the network to a request for credentials. A refusal has words. -/
inductive Grant where
  | granted
  | refused (words : Text)
  deriving DecidableEq, Repr

/-- What the network answers, now and later. -/
structure Network where
  /-- What becomes of the coming requests for credentials; the last answer stays. -/
  grants : List Grant
  /-- The replies to the coming requests for pages. Without any more the network is down. -/
  replies : List Reply
  /-- The words of the network when it is down. -/
  outage : Text
  deriving DecidableEq, Repr

/-- Why loading stopped before the last page. -/
inductive LoadFailure where
  | connection (words : Text)
  | http (words : Text)
  /-- The network is down. -/
  | outage
  | noPeople
  | noNumber
  /-- There is nothing where a person, a name or an entry of a number should be. -/
  | gap
  deriving DecidableEq, Repr

/-- The report about a failure, where a network that is down has given words to that. -/
def LoadFailure.message (outage : Text) : LoadFailure → Text
  | .connection words => "Error loading contacts: ".text ++ words
  | .http words => "Failed to load contacts: ".text ++ words
  | .outage => "Error loading contacts: ".text ++ outage
  | .noPeople => "Error loading contacts: 'NoneType' object is not iterable".text
  | .noNumber =>
      "Error loading contacts: expected string or bytes-like object, got 'NoneType'".text
  | .gap => "Error loading contacts: 'NoneType' object has no attribute 'get'".text

/-- A telephone number as numbers are compared: its last nine digits. -/
def comparable (number : Text) : Text :=
  let digits := number.filter Text.isDigit
  digits.drop (digits.length - 9)

/-- Numbers as they are compared, with names. -/
abbrev Entries := List (Text × Text)

/-- The entries of a person's numbers, up to one that is missing. -/
def phoneEntries (name : Text) : List PhoneEntry → Entries × Option LoadFailure
  | [] => ([], none)
  | .nothing :: _ => ([], some .gap)
  | .withoutNumber :: _ => ([], some .noNumber)
  | .number number :: rest =>
      let behind := phoneEntries name rest
      if comparable number = [] then behind
      else ((comparable number, name) :: behind.1, behind.2)

/-- The entries of a person under the first of the display names. A person without
names or without numbers has none. -/
def Person.entries (person : Person) : Entries × Option LoadFailure :=
  match person.names, person.phones with
  | [], _ => ([], none)
  | _, [] => ([], none)
  | none :: _, _ => ([], some .gap)
  | some name :: _, phones => if name = [] then ([], none) else phoneEntries name phones

/-- The entries of people, up to the first fault. -/
def peopleEntries : List (Option Person) → Entries × Option LoadFailure
  | [] => ([], none)
  | none :: _ => ([], some .gap)
  | some person :: rest =>
      match person.entries with
      | (entries, some failure) => (entries, some failure)
      | (entries, none) =>
          let behind := peopleEntries rest
          (entries ++ behind.1, behind.2)

/-- The entries of a page, up to the first fault. -/
def Page.entries (page : Page) : Entries × Option LoadFailure :=
  match page.people with
  | none => ([], some .noPeople)
  | some people => peopleEntries people

/-- Names under numbers as they are compared. -/
abbrev Cache := Register Text Text

/-- Keep entries whose number has no name yet. -/
def Cache.keep (cache : Cache) (entries : Entries) : Cache :=
  entries.foldl (fun cache entry => cache.putNew entry.1 entry.2) cache

/-- How far loading has come: what is kept, the tokens of the requests, and the
replies that are still to come. -/
structure Progress where
  cache : Cache
  requested : List (Option Text)
  replies : List Reply

/-- Request pages from the one with the given token on. The network is down when
there are no more replies. -/
def fetch (cache : Cache) (requested : List (Option Text)) (token : Option Text) :
    List Reply → Progress × Option LoadFailure
  | [] => (⟨cache, requested ++ [token], []⟩, some .outage)
  | .connectionFailure words :: rest =>
      (⟨cache, requested ++ [token], rest⟩, some (.connection words))
  | .httpFailure words :: rest => (⟨cache, requested ++ [token], rest⟩, some (.http words))
  | .page page :: rest =>
      let kept := cache.keep page.entries.1
      match page.entries.2 with
      | some failure => (⟨kept, requested ++ [token], rest⟩, some failure)
      | none =>
          match page.nextToken.filter (· ≠ []) with
          | none => (⟨kept, requested ++ [token], rest⟩, none)
          | some next => fetch kept (requested ++ [token]) (some next) rest

/-- An account: its settings, the network behind it, and what is known so far. -/
structure Account where
  settings : Settings
  grants : List Grant
  replies : List Reply
  outage : Text
  connected : Bool
  loaded : Bool
  cache : Cache
  requested : List (Option Text)

/-- A result of an account, the account behind it, and the reports on the way. -/
structure Outcome (α : Type) where
  value : α
  account : Account
  log : List LogEntry

/-- A report of this part of the library. -/
def report (level : Level) (message : Text) : LogEntry :=
  ⟨level, .contacts, message⟩

/-- Whether credentials are given. -/
def Grant.isGranted : Grant → Bool
  | .granted => true
  | .refused _ => false

/-- The report about a refusal. -/
def Grant.log : Grant → List LogEntry
  | .granted => []
  | .refused words => [report .error ("Failed to get Google credentials: ".text ++ words)]

namespace Account

/-- An account about which nothing is known yet. -/
def start (settings : Settings) (network : Network) : Account :=
  ⟨settings, network.grants, network.replies, network.outage, false, false, .empty, []⟩

/-- Whether look-ups are possible. -/
def isConfigured (account : Account) : Bool :=
  account.settings.canLookUpContacts

/-- Ask for credentials. -/
def credentials (account : Account) : Outcome Bool :=
  if account.isConfigured then
    let grant := account.grants.headD (.refused account.outage)
    let rest := if account.grants.length ≤ 1 then account.grants else account.grants.tail
    ⟨grant.isGranted, { account with grants := rest }, grant.log⟩
  else
    ⟨false, account, [report .warning "Google API credentials not configured".text]⟩

/-- Connect to the account. A connection stays. -/
def connect (account : Account) : Outcome Bool :=
  if account.connected then ⟨true, account, []⟩
  else
    let asked := account.credentials
    { asked with account := { asked.account with connected := asked.value } }

/-- Load all contacts, unless they have been loaded. -/
def load (account : Account) : Outcome Unit :=
  if account.loaded then ⟨(), account, []⟩
  else
    let connection := account.connect
    if connection.value then
      let started := connection.account
      let (progress, failure) := fetch started.cache started.requested none started.replies
      let account := { started with
        cache := progress.cache, requested := progress.requested, replies := progress.replies,
        loaded := failure.isNone }
      let ending := match failure with
        | some failure => report .error (failure.message started.outage)
        | none =>
            report .info ("Loaded ".text ++ Text.decimal progress.cache.entries.length ++
              " phone numbers from contacts".text)
      ⟨(), account,
        connection.log ++ [report .info "Loading all contacts from Google...".text, ending]⟩
    else
      ⟨(), connection.account, connection.log⟩

/-- The first name whose number ends in the last `count` digits of the given one, if
it has that many. -/
def findByEnding (cache : Cache) (number : Text) (count : Nat) : Option Text :=
  if count ≤ number.length then
    (cache.entries.find? fun entry => (number.drop (number.length - count)).isSuffixOf entry.1).map
      (·.2)
  else
    none

/-- The name under a number as numbers are compared: that of the number itself, or
else of the first number that shares its last eight, seven or six digits. -/
def findName (cache : Cache) (number : Text) : Option Text :=
  if number = [] then none
  else (cache.get? number).or ([8, 7, 6].findSome? (findByEnding cache number))

/-- Look up the name of a number. Addresses of internet calls have none. -/
def lookup (account : Account) (number : Text) (isSip : Bool) : Outcome (Option Text) :=
  if number = [] then ⟨none, account, []⟩
  else if isSip then
    ⟨none, account, [report .debug "Skipping contact lookup for SIP address".text]⟩
  else
    let loading := account.load
    ⟨findName loading.account.cache (comparable number), loading.account, loading.log⟩

/-- Nothing is looked up without a number. -/
theorem lookup_empty (account : Account) (isSip : Bool) :
    account.lookup [] isSip = ⟨none, account, []⟩ := rfl

/-- An address of an internet call is not looked up. -/
theorem lookup_sip (account : Account) (number : Text) :
    (account.lookup number true).value = none ∧ (account.lookup number true).account = account := by
  unfold lookup
  split <;> exact ⟨rfl, rfl⟩

end Account
end RecordingName.Contacts
