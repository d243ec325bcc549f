import Mathlib.Data.List.Forall2
import RecordingName.Naming.Resolution
import RecordingName.Proofs.Text.Cutting

/-!
# Names of parties in a directory

The name of a party is the one that came with the call, or else that of the directory, which is
asked by an `Enquiry`: first whether look-ups are possible, and then for the number. A look-up is
only ever made for a party for which `Details.lookup?` has one, by `Directory.about_enquiries`. The
directory may answer every question in its own way. One that tells the same status each time,
`Directory.Tells`, is asked for all such parties or for none: `Directory.lookups_of_configured` and
`Directory.lookups_of_unconfigured`.
-/

namespace RecordingName

open Naming

/-- A number is the address of an internet call if it has an at sign, plain or percent-encoded. -/
theorem Naming.isSipAddress_iff (number : Text) :
    isSipAddress number = true ↔
      .scalar '@' ∈ number ∨ [CodePoint.scalar '%', '4', '0'] <:+: number := by
  have encoded := @Text.afterEach_ne_nil_iff ['%', '4', '0'] number (by decide)
  rw [← encoded]
  simp [isSipAddress]

/-- The look-up that the name of a party takes, which tells the number of the party and whether it
is the address of an internet call. None is made for a name that came with the call, or without a
number. -/
def Details.lookup? (party : Details) : Option Lookup :=
  match party.contactName with
  | some _ => none
  | none => party.phoneNumber?.map fun number => ⟨number, isSipAddress number⟩

namespace Contacts

/-- What becomes of the name of a party when it is asked for. -/
inductive Enquiry where
  /-- The name came with the call. -/
  | known (name : Text)
  /-- Nothing is looked up, since that is not possible or the party has no number. -/
  | omitted
  | lookedUp (lookup : Lookup) (answer : Answer)
  deriving DecidableEq, Repr

namespace Enquiry

/-- The look-up of an enquiry. -/
def lookup? : Enquiry → Option Lookup
  | .known _ => none
  | .omitted => none
  | .lookedUp lookup _ => some lookup

/-- The name that an enquiry gives. A look-up that fails gives none. -/
def name? : Enquiry → Option Text
  | .known name => some name
  | .omitted => none
  | .lookedUp _ (.found name) => some name
  | .lookedUp _ .notFound => none
  | .lookedUp _ .failed => none

/-- An enquiry is one about a party. -/
def About (party : Details) : Enquiry → Prop
  | .known name => party.contactName = some name
  | .omitted => party.contactName = none
  | .lookedUp lookup _ => party.lookup? = some lookup

end Enquiry

/-- Enquiries about parties, one after the other, up to the first time that the directory does not
tell whether look-ups are possible. -/
structure Enquiries where
  made : List Enquiry
  failure : Option StatusFailure
  behind : Directory

/-- The look-ups of enquiries. -/
def Enquiries.lookups (enquiries : Enquiries) : List Lookup :=
  enquiries.made.filterMap Enquiry.lookup?

/-- The names that enquiries give. -/
def Enquiries.names (enquiries : Enquiries) : List Text :=
  enquiries.made.filterMap Enquiry.name?

namespace Directory

/-- The enquiry about a party, and the directory behind it. -/
def enquire (directory : Directory) (party : Details) :
    Except StatusFailure Enquiry × Directory :=
  match party.contactName with
  | some name => (.ok (.known name), directory)
  | none =>
      match directory.isConfigured with
      | (.error failure, behind) => (.error failure, behind)
      | (.ok false, behind) => (.ok .omitted, behind)
      | (.ok true, behind) =>
          match party.lookup? with
          | none => (.ok .omitted, behind)
          | some lookup =>
              let answered := behind.lookup lookup.number lookup.isSip
              (.ok (.lookedUp lookup answered.1), answered.2.1)

/-- The enquiries about parties, one after the other. -/
def enquiries (directory : Directory) : List Details → Enquiries
  | [] => ⟨[], none, directory⟩
  | party :: rest =>
      match directory.enquire party with
      | (.error failure, behind) => ⟨[], some failure, behind⟩
      | (.ok enquiry, behind) =>
          let later := behind.enquiries rest
          { later with made := enquiry :: later.made }

theorem enquiries_cons_of_ok {directory behind : Directory} {party : Details} {enquiry : Enquiry}
    (enquired : directory.enquire party = (.ok enquiry, behind)) (rest : List Details) :
    directory.enquiries (party :: rest) =
      { behind.enquiries rest with made := enquiry :: (behind.enquiries rest).made } := by
  rw [enquiries, enquired]

/-- Nobody is asked about behind a party whose question for the status fails. -/
theorem enquiries_cons_of_error {directory behind : Directory} {party : Details}
    {failure : StatusFailure} (enquired : directory.enquire party = (.error failure, behind))
    (rest : List Details) : directory.enquiries (party :: rest) = ⟨[], some failure, behind⟩ := by
  rw [enquiries, enquired]

/-- An enquiry that is made is about the party that it was made for. -/
theorem about_enquire {directory behind : Directory} {party : Details} {enquiry : Enquiry}
    (enquired : directory.enquire party = (.ok enquiry, behind)) : enquiry.About party := by
  rw [enquire] at enquired
  split at enquired
  next name named =>
    cases enquired
    exact named
  next unnamed =>
    split at enquired
    · cases enquired
    · cases enquired
      exact unnamed
    · split at enquired
      · cases enquired
        exact unnamed
      next lookup asked =>
        cases enquired
        exact asked

/-- Enquiries are made about one party after the other, and about all of them unless the directory
does not tell whether look-ups are possible. -/
theorem about_enquiries (directory : Directory) (parties : List Details) :
    ∃ front, front <+: parties ∧
      List.Forall₂ Enquiry.About front (directory.enquiries parties).made ∧
      ((directory.enquiries parties).failure = none → front = parties) := by
  induction parties generalizing directory with
  | nil => exact ⟨[], List.nil_prefix, .nil, fun _ => rfl⟩
  | cons party rest ih =>
      rcases enquired : directory.enquire party with ⟨result, behind⟩
      cases result with
      | error failure =>
          rw [enquiries_cons_of_error enquired]
          exact ⟨[], List.nil_prefix, .nil, nofun⟩
      | ok enquiry =>
          obtain ⟨front, early, about, all⟩ := ih behind
          rw [enquiries_cons_of_ok enquired]
          exact ⟨party :: front, List.cons_prefix_cons.2 ⟨rfl, early⟩,
            .cons (about_enquire enquired) about, fun told => congrArg _ (all told)⟩

/-- Whenever it is asked, a directory tells this of whether look-ups are possible. -/
def Tells (status : Except StatusFailure Bool) : Directory → Prop
  | .absent => status = .ok false
  | .given atQuestion => ∀ count, (atQuestion count).configured.mapError .failed = status
  | .account known => status = .ok known.isConfigured
  | .unusable errors => status = .error (.settings errors)

variable {directory : Directory} {status : Except StatusFailure Bool}

/-- A directory with one status tells it, and has it afterwards. -/
theorem Tells.isConfigured (tells : directory.Tells status) :
    directory.isConfigured.1 = status ∧ directory.isConfigured.2.Tells status := by
  cases directory with
  | absent => exact ⟨tells.symm, tells⟩
  | given atQuestion => exact ⟨tells 0, fun count => tells (count + 1)⟩
  | account known => exact ⟨tells.symm, tells⟩
  | unusable errors => exact ⟨tells.symm, tells⟩

end Directory

/-- The account behind a look-up has the settings of before. -/
theorem Account.settings_lookup (account : Account) (number : Text) (isSip : Bool) :
    (account.lookup number isSip).account.settings = account.settings := by
  have asked : account.credentials.account.settings = account.settings := by
    unfold credentials
    split <;> rfl
  have connected : account.connect.account.settings = account.settings := by
    unfold connect
    split
    · rfl
    · exact asked
  have loaded : account.load.account.settings = account.settings := by
    unfold load
    split
    · rfl
    · dsimp only
      split <;> exact connected
  unfold lookup
  split
  · rfl
  · split
    · rfl
    · exact loaded

namespace Directory

variable {directory : Directory} {status : Except StatusFailure Bool}

/-- A look-up does not change what a directory tells. -/
theorem Tells.lookup (tells : directory.Tells status) (number : Text) (isSip : Bool) :
    (directory.lookup number isSip).2.1.Tells status := by
  cases directory with
  | absent => exact tells
  | given atQuestion => exact fun count => tells (count + 1)
  | account known =>
      rw [Directory.lookup, Tells, Account.isConfigured, Account.settings_lookup]
      exact tells
  | unusable errors => exact tells

/-- The directory behind an enquiry tells what the one before it does. -/
theorem Tells.enquire (tells : directory.Tells status) (party : Details) :
    (directory.enquire party).2.Tells status := by
  have behind := tells.isConfigured.2
  rw [Directory.enquire]
  split
  · exact tells
  · split
    next asked =>
      rw [asked] at behind
      exact behind
    next asked =>
      rw [asked] at behind
      exact behind
    next asked =>
      rw [asked] at behind
      split
      · exact behind
      next lookup _ => exact behind.lookup lookup.number lookup.isSip

/-- A directory of which look-ups are always possible is asked for every party that has a number but
no name of its own. -/
theorem Tells.lookup?_enquire (tells : directory.Tells (.ok true)) (party : Details) :
    ∃ enquiry, (directory.enquire party).1 = .ok enquiry ∧ enquiry.lookup? = party.lookup? := by
  have told := tells.isConfigured.1
  rw [Directory.enquire]
  cases named : party.contactName with
  | some name => exact ⟨_, rfl, by rw [Details.lookup?, named]; rfl⟩
  | none =>
      rcases asked : directory.isConfigured with ⟨answer, behind⟩
      rw [asked] at told
      cases told
      cases sought : party.lookup? with
      | none => exact ⟨_, rfl, rfl⟩
      | some lookup => exact ⟨_, rfl, rfl⟩

/-- A directory of which look-ups are never possible is not asked for any party. -/
theorem Tells.lookup?_eq_none (tells : directory.Tells status) (closed : status ≠ .ok true)
    {party : Details} {enquiry : Enquiry} (enquired : (directory.enquire party).1 = .ok enquiry) :
    enquiry.lookup? = none := by
  obtain ⟨told, _⟩ := tells.isConfigured
  rw [Directory.enquire] at enquired
  split at enquired
  · cases enquired
    rfl
  · split at enquired
    · cases enquired
    · cases enquired
      rfl
    next asked =>
      rw [asked] at told
      exact absurd told.symm closed

/-- A directory of which look-ups are always possible is asked for all parties that have a number but
no name of their own. -/
theorem lookups_of_configured (tells : directory.Tells (.ok true)) (parties : List Details) :
    (directory.enquiries parties).lookups = parties.filterMap Details.lookup? ∧
      (directory.enquiries parties).failure = none := by
  induction parties generalizing directory with
  | nil => exact ⟨rfl, rfl⟩
  | cons party rest ih =>
      have still := tells.enquire party
      obtain ⟨enquiry, told, lookup⟩ := tells.lookup?_enquire party
      rcases enquired : directory.enquire party with ⟨result, behind⟩
      rw [enquired] at told still
      cases told
      obtain ⟨lookups, failure⟩ := ih still
      rw [enquiries_cons_of_ok enquired]
      refine ⟨?_, failure⟩
      rw [Enquiries.lookups, List.filterMap_cons, List.filterMap_cons, lookup, ← lookups]
      rfl

/-- A directory of which look-ups are never possible is not asked for anybody. -/
theorem lookups_of_unconfigured (tells : directory.Tells status) (closed : status ≠ .ok true)
    (parties : List Details) : (directory.enquiries parties).lookups = [] := by
  induction parties generalizing directory with
  | nil => rfl
  | cons party rest ih =>
      have still := tells.enquire party
      rcases enquired : directory.enquire party with ⟨result, behind⟩
      rw [enquired] at still
      cases result with
      | error failure =>
          rw [enquiries_cons_of_error enquired]
          rfl
      | ok enquiry =>
          rw [enquiries_cons_of_ok enquired, Enquiries.lookups, List.filterMap_cons,
            tells.lookup?_eq_none closed (congrArg Prod.fst enquired)]
          exact ih still

end Directory
end Contacts

end RecordingName
