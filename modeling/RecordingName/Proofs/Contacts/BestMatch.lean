import Mathlib.Data.List.MinMax
import RecordingName.Proofs.Contacts.Listing

/-!
# The best match for a number

The name of a number is that of the number itself, or else that of the first number that shares the
longest ending with it, if that has six digits at least: `bestMatch`. The search tries endings of
eight, seven and six digits, which comes to the same for numbers as they are compared, by
`findName_eq_bestMatch`. `lookup_eq_bestMatch` puts this together with the loading of the contacts.
-/

namespace RecordingName.Contacts

/-- The length of the longest ending that two texts share. -/
def sharedEnding (first second : Text) : Nat :=
  ((first.reverse.zip second.reverse).takeWhile fun pair => pair.1 = pair.2).length

/-- The name under a number among entries: that of the number itself, or else that of the first
number that shares the longest ending with it, if this has six digits at least. -/
def bestMatch (entries : Entries) (number : Text) : Option Text :=
  if number = [] then none
  else
    ((entries.find? (·.1 = number)).map (·.2)).or
      (((entries.argmax fun entry => sharedEnding entry.1 number).filter
        fun entry => 6 ≤ sharedEnding entry.1 number).map (·.2))

/-- Two texts share a start of some length when their first characters up to there are the same. -/
theorem le_length_takeWhile_zip {first second : Text} {count : Nat} :
    count ≤ ((first.zip second).takeWhile fun pair => pair.1 = pair.2).length ↔
      count ≤ first.length ∧ count ≤ second.length ∧ first.take count = second.take count := by
  induction first generalizing second count with
  | nil => cases count <;> simp
  | cons head rest ih =>
      cases second with
      | nil => cases count <;> simp
      | cons other more =>
          cases count with
          | zero => simp
          | succ count =>
              by_cases same : head = other
              · simp [same, ih]
              · simp [same]

/-- Two texts share an ending exactly if it is not longer than the longest one that they share. -/
theorem le_sharedEnding_iff {first second : Text} {count : Nat} :
    count ≤ sharedEnding first second ↔
      ∃ ending, ending.length = count ∧ ending <:+ first ∧ ending <:+ second := by
  rw [sharedEnding, le_length_takeWhile_zip, List.length_reverse, List.length_reverse]
  constructor
  · rintro ⟨first_long, second_long, same⟩
    refine ⟨(first.reverse.take count).reverse, by simpa using first_long, ?_, ?_⟩
    · rw [← List.reverse_prefix, List.reverse_reverse]
      exact List.take_prefix ..
    · rw [← List.reverse_prefix, List.reverse_reverse, same]
      exact List.take_prefix ..
  · rintro ⟨ending, rfl, first_ends, second_ends⟩
    refine ⟨first_ends.length_le, second_ends.length_le, ?_⟩
    have first_starts := List.prefix_iff_eq_take.1 (List.reverse_prefix.2 first_ends)
    have second_starts := List.prefix_iff_eq_take.1 (List.reverse_prefix.2 second_ends)
    rw [List.length_reverse] at first_starts second_starts
    rw [← first_starts, ← second_starts]

/-- The last digits of a number end another one exactly if the two share as many digits at the
end. -/
theorem isSuffixOf_drop_iff {number other : Text} {count : Nat} (long : count ≤ number.length) :
    (number.drop (number.length - count)).isSuffixOf other ↔ count ≤ sharedEnding other number := by
  have width : (number.drop (number.length - count)).length = count := by
    rw [List.length_drop]
    omega
  rw [List.isSuffixOf_iff_suffix, le_sharedEnding_iff]
  constructor
  · intro ends
    exact ⟨_, width, ends, List.drop_suffix ..⟩
  · rintro ⟨ending, rfl, other_ends, number_ends⟩
    rwa [← List.suffix_iff_eq_drop.1 number_ends]

/-- No more can be shared than there is. -/
theorem sharedEnding_le (first second : Text) : sharedEnding first second ≤ second.length := by
  obtain ⟨ending, long, _, ends⟩ := le_sharedEnding_iff.1 (Nat.le_refl (sharedEnding first second))
  exact long ▸ ends.length_le

/-- Different numbers of nine digits at most share less than nine at the end. -/
theorem sharedEnding_lt {first second : Text} (first_short : first.length ≤ 9)
    (second_short : second.length ≤ 9) (different : first ≠ second) :
    sharedEnding first second < 9 := by
  refine Nat.lt_of_not_le fun long => different ?_
  obtain ⟨ending, width, first_ends, second_ends⟩ := le_sharedEnding_iff.1 long
  rw [← first_ends.eq_of_length_le (by omega), ← second_ends.eq_of_length_le (by omega)]

/-- The search for an ending finds the first number that shares it. -/
theorem findByEnding_eq (cache : Cache) (number : Text) (count : Nat) :
    Account.findByEnding cache number count =
      (cache.entries.find? fun entry => count ≤ sharedEnding entry.1 number).map (·.2) := by
  rw [Account.findByEnding]
  split
  next long =>
    refine congrArg (Option.map _) (congrFun (congrArg _ (funext fun entry => ?_)) _)
    rw [Bool.eq_iff_iff, isSuffixOf_drop_iff long, decide_eq_true_eq]
  next short =>
    have nothing : cache.entries.find? (fun entry => count ≤ sharedEnding entry.1 number) = none := by
      refine List.find?_eq_none.2 fun entry _ => ?_
      have most := sharedEnding_le entry.1 number
      simp only [decide_eq_true_eq]
      omega
    rw [nothing]
    rfl

/-- The first of the greatest is the first that is as great. -/
theorem find?_of_argmax {α : Type} [DecidableEq α] {measure : α → Nat} {items : List α} {best : α}
    (greatest : items.argmax measure = some best) :
    items.find? (fun item => measure best ≤ measure item) = some best := by
  obtain ⟨member, _, first⟩ := List.argmax_eq_some_iff.1 greatest
  obtain ⟨before, behind, shape, fresh⟩ := List.eq_append_cons_of_mem member
  refine List.find?_eq_some_iff_append.2 ⟨by simp, before, behind, shape, fun other early => ?_⟩
  have listed : other ∈ items := shape ▸ List.mem_append_left _ early
  simp only [Bool.not_eq_true', decide_eq_false_iff_not]
  intro great
  have order := first other listed great
  rw [shape, List.idxOf_append_of_notMem fresh, List.idxOf_append_of_mem early,
    List.idxOf_cons_self] at order
  have inside := List.idxOf_lt_length_of_mem early
  omega

/-- Endings of eight, seven and six digits are enough to find the longest one, if nothing shares
nine digits. -/
theorem findSome?_findByEnding (cache : Cache) (number : Text)
    (short : ∀ entry ∈ cache.entries, sharedEnding entry.1 number < 9) :
    [8, 7, 6].findSome? (Account.findByEnding cache number) =
      ((cache.entries.argmax fun entry => sharedEnding entry.1 number).filter
        fun entry => 6 ≤ sharedEnding entry.1 number).map (·.2) := by
  simp only [List.findSome?_cons, List.findSome?_nil, findByEnding_eq]
  cases greatest : cache.entries.argmax fun entry => sharedEnding entry.1 number with
  | none =>
      rw [List.argmax_eq_none.1 greatest]
      rfl
  | some best =>
      have found := find?_of_argmax greatest
      have listed := List.argmax_mem (Option.mem_def.2 greatest)
      have most (entry : Text × Text) (member : entry ∈ cache.entries) :
          sharedEnding entry.1 number ≤ sharedEnding best.1 number :=
        List.le_of_mem_argmax member (Option.mem_def.2 greatest)
      have unfound (count : Nat) (beyond : sharedEnding best.1 number < count) :
          cache.entries.find? (fun entry => count ≤ sharedEnding entry.1 number) = none := by
        refine List.find?_eq_none.2 fun entry member => ?_
        have below := most entry member
        simp only [decide_eq_true_eq]
        omega
      by_cases enough : 6 ≤ sharedEnding best.1 number
      · have chosen : (some best).filter (fun entry => 6 ≤ sharedEnding entry.1 number) = some best :=
          if_pos (decide_eq_true enough)
        rw [chosen]
        have fewer := short best listed
        obtain eight | seven | six : sharedEnding best.1 number = 8 ∨
            sharedEnding best.1 number = 7 ∨ sharedEnding best.1 number = 6 := by omega
        · rw [eight] at found
          simp [found]
        · rw [seven] at found
          simp [found, unfound 8 (by omega)]
        · rw [six] at found
          simp [found, unfound 8 (by omega), unfound 7 (by omega)]
      · have none_chosen : (some best).filter (fun entry => 6 ≤ sharedEnding entry.1 number) = none :=
          if_neg (by simpa using enough)
        rw [none_chosen]
        simp [unfound 8 (by omega), unfound 7 (by omega), unfound 6 (by omega)]

/-- The search among numbers of nine digits at most finds the best match. -/
theorem findName_eq_bestMatch {cache : Cache} {number : Text} (number_short : number.length ≤ 9)
    (short : ∀ entry ∈ cache.entries, entry.1.length ≤ 9) :
    Account.findName cache number = bestMatch cache.entries number := by
  rw [Account.findName, bestMatch, Register.get?_eq_find?]
  split
  · rfl
  · cases same : cache.entries.find? (·.1 = number) with
    | some entry => rfl
    | none =>
        have others := List.find?_eq_none.1 same
        refine findSome?_findByEnding cache number fun entry member => ?_
        refine sharedEnding_lt (short entry member) number_short fun equal => ?_
        exact others entry member (decide_eq_true equal)

/-- Numbers as they are compared have nine digits at most. -/
theorem length_comparable_le (number : Text) : (comparable number).length ≤ 9 := by
  rw [comparable, List.length_drop]
  omega

/-- Only entries that were given are kept. -/
theorem mem_of_mem_firstPerNumber {entries : Entries} {entry : Text × Text}
    (member : entry ∈ firstPerNumber entries) : entry ∈ entries := by
  induction entries with
  | nil => cases member
  | cons first rest ih =>
      rcases List.mem_cons.1 member with rfl | later
      · exact List.mem_cons_self ..
      · exact List.mem_cons_of_mem _ (ih (List.mem_of_mem_filter later))

/-- The numbers that are known are numbers as they are compared. -/
theorem exists_of_mem_known {contacts : List Contact} {entry : Text × Text}
    (member : entry ∈ known contacts) : ∃ number, entry.1 = comparable number := by
  obtain ⟨contact, _, paired⟩ := List.mem_flatMap.1 (mem_of_mem_firstPerNumber member)
  rw [Contact.pairs] at paired
  cases named : contact.name? with
  | none =>
      rw [named] at paired
      cases paired
  | some name =>
      rw [named] at paired
      obtain ⟨shown, kept, rfl⟩ := List.mem_map.1 paired
      obtain ⟨number, _, rfl⟩ := List.mem_map.1 (List.mem_of_mem_filter kept)
      exact ⟨number, rfl⟩

/-- An account that has contacts finds the best match among them. -/
theorem Account.Serves.value_lookup {contacts : List Contact} {account : Account}
    (serves : Serves contacts account) {number : Text} (nonempty : number ≠ []) :
    (account.lookup number false).value = bestMatch (known contacts) (comparable number) := by
  have kept := serves.load.2
  rw [Account.lookup, if_neg nonempty, if_neg Bool.false_ne_true, ← kept]
  refine findName_eq_bestMatch (length_comparable_le number) fun entry member => ?_
  obtain ⟨listed, shape⟩ := exists_of_mem_known (kept ▸ member)
  rw [shape]
  exact length_comparable_le listed

/-- Whatever has been looked up before, and wherever the pages end, a look-up finds the best match
among the contacts that are listed. -/
theorem lookup_eq_bestMatch {settings : Settings} {network : Network} {pages : List Page}
    {contacts : List Contact} {rest : List Reply} (configured : settings.canLookUpContacts = true)
    (granted : network.grants.head? = some .granted) (listing : Listing pages contacts)
    (served : network.replies = pages.map .page ++ rest) (earlier : List (Text × Bool))
    {number : Text} (nonempty : number ≠ []) :
    (((Account.start settings network).lookUps earlier).lookup number false).value =
      bestMatch (known contacts) (comparable number) :=
  ((Account.serves_start configured granted listing served).lookUps earlier).value_lookup nonempty

/-- The settings of an account whose contacts may be looked up. -/
def openSettings : Settings where
  filenameTemplate := none
  timezone := none
  contactLookupEnabled := true
  logLevel := .info
  googleClientId := some ['i']
  googleClientSecret := some ['s']
  googleRefreshToken := some ['t']

/-- Two contacts whose numbers share six digits at the end. -/
def twoContacts : List Contact :=
  [⟨["Ann".text], ["555-023-4567".text]⟩, ⟨["Bob".text], ["555-123-4567".text]⟩]

/-- A network that gives credentials and serves the two contacts on two pages. -/
def twoPageNetwork : Network where
  grants := [.granted]
  replies := [.page (.of (twoContacts.take 1) (some ['2'])), .page (.of (twoContacts.drop 1) none)]
  outage := "connection reset".text

/-- The second contact shares one digit more, and is found on the second page. -/
theorem lookup_eq_bestMatch_paged :
    openSettings.canLookUpContacts = true ∧
    Listing [.of (twoContacts.take 1) (some ['2']), .of (twoContacts.drop 1) none] twoContacts ∧
    (((Account.start openSettings twoPageNetwork).lookUps [("7".text, false)]).lookup
      "123-4567".text false).value = some "Bob".text := by
  have configured : openSettings.canLookUpContacts = true := by decide
  have listing : Listing [.of (twoContacts.take 1) (some ['2']), .of (twoContacts.drop 1) none]
      twoContacts := .next _ (by decide) (.last _ rfl)
  have best : bestMatch (known twoContacts) (comparable "123-4567".text) =
      some "Bob".text := by decide
  have served : twoPageNetwork.replies =
      [.of (twoContacts.take 1) (some ['2']), .of (twoContacts.drop 1) none].map .page ++ [] := rfl
  exact ⟨configured, listing, (lookup_eq_bestMatch configured rfl listing served
    [("7".text, false)] (by decide)).trans best⟩

end RecordingName.Contacts
