import Mathlib.Data.List.Chain
import RecordingName.Proofs.Template.RoundTrip
import RecordingName.Template.Location

/-!
# What a location says

A location is found by looking at the segment before a reference, and yet it says something about
every evaluation: what has been produced before the reference ends with the literal of the location,
and is nothing else if that is at the start. `find?_sound` says so, whatever answers the references.
In a template that has been read, a location is at the start exactly if what is produced before it
depends on no answer. That is because literals do not meet in normal segments, by `apart_normal`.
-/

namespace RecordingName

/-- Whether a segment is literal text. -/
def Segment.isLiteral : Segment → Bool
  | .literal _ => true
  | .reference _ => false

namespace Template

open Segment

variable {segments front : List Segment} {target : Reference} {name : Text}

/-! ### Literals that do not meet -/

/-- No two literals stand side by side. -/
def Apart (segments : List Segment) : Prop :=
  segments.IsChain fun first second => ¬ (first.isLiteral ∧ second.isLiteral)

/-- Literal text in front becomes part of a literal that it meets. -/
theorem apart_joinLiteral (text : Text) (apart : Apart segments) :
    Apart (joinLiteral text segments) := by
  cases text with
  | nil => exact apart
  | cons head others =>
      cases segments with
      | nil => exact .singleton _
      | cons segment rest =>
          cases segment with
          | literal following =>
              obtain ⟨next, later⟩ := List.isChain_cons.1 apart
              exact List.isChain_cons.2 ⟨next, later⟩
          | reference target =>
              refine List.isChain_cons_cons.2 ⟨?_, apart⟩
              rintro ⟨_, literal⟩
              cases literal

/-- The normal form holds no two literals side by side. -/
theorem apart_normal (segments : List Segment) : Apart (normal segments) := by
  induction segments with
  | nil => exact .nil
  | cons segment rest ih =>
      cases segment with
      | literal text =>
          rw [normal_cons_literal]
          exact apart_joinLiteral text ih
      | reference target =>
          rw [normal_cons_reference]
          refine List.isChain_cons.2 ⟨?_, ih⟩
          rintro next _ ⟨literal, _⟩
          cases literal

/-! ### What is produced -/

/-- What segments can be evaluated to. Anything may answer their references: an answer may depend
on a state and change it, and there may be none. -/
def Produces (segments : List Segment) (text : Text) : Prop :=
  ∃ (ε σ : Type) (answer : Reference → ExceptT ε (StateM σ) (Option Text)) (before behind : σ),
    (evaluateSegments answer segments).run.run before = (.ok text, behind)

/-- The evaluation of a template produces what stands before a reference before it asks for the
answer, and puts that answer behind it. -/
theorem evaluate_at {m : Type → Type} [Monad m] [LawfulMonad m]
    (answer : Reference → m (Option Text)) (front back : List Segment) (target : Reference) :
    evaluate ⟨front ++ .reference target :: back⟩ answer = (do
      let before ← evaluateSegments answer front
      let value ← answer target
      let behind ← evaluateSegments answer back
      pure (before ++ (value.getD [] ++ behind))) := by
  rw [evaluate, evaluateSegments_append]
  simp only [evaluateSegments, bind_assoc, pure_bind]

/-- Nothing but nothing is produced by an empty template. -/
theorem eq_nil_of_produces {text : Text} (produces : Produces [] text) : text = [] := by
  obtain ⟨ε, σ, answer, before, behind, ran⟩ := produces
  cases ran
  rfl

/-- A literal at the end is produced behind what stands before it. -/
theorem exists_of_produces_concat {literal text : Text}
    (produces : Produces (front ++ [.literal literal]) text) :
    ∃ start, Produces front start ∧ text = start ++ literal := by
  obtain ⟨ε, σ, answer, before, behind, ran⟩ := produces
  have last : evaluateSegments answer (front ++ [.literal literal]) =
      (· ++ literal) <$> evaluateSegments answer front := by
    rw [evaluateSegments_append, map_eq_pure_bind]
    simp only [evaluateSegments, pure_bind, List.append_nil]
  rw [last, ExceptT.run_map, StateT.run_map] at ran
  rcases started : (evaluateSegments answer front).run.run before with ⟨result, middle⟩
  rw [started] at ran
  cases result with
  | error failure => cases ran
  | ok start =>
      cases ran
      exact ⟨start, ⟨ε, σ, answer, before, middle, started⟩, rfl⟩

/-- Segments with the same text in the place of every reference. -/
def filled (value : Text) (segments : List Segment) : Text :=
  segments.flatMap fun
    | .literal text => text
    | .reference _ => value

/-- If every answer is the same, it stands in the place of every reference. -/
theorem produces_filled (value : Text) (segments : List Segment) :
    Produces segments (filled value segments) := by
  refine ⟨Unit, Unit, fun _ => pure (some value), (), (), ?_⟩
  suffices always : evaluateSegments (m := ExceptT Unit (StateM Unit)) (fun _ => pure (some value))
      segments = pure (filled value segments) by
    rw [always]
    rfl
  induction segments with
  | nil => rfl
  | cons segment rest ih =>
      cases segment with
      | literal text =>
          rw [evaluateSegments, ih]
          rfl
      | reference target =>
          rw [evaluateSegments, pure_bind, ih]
          rfl

/-- Each reference adds the length of its value. -/
theorem length_filled (value : Text) (segments : List Segment) :
    (filled value segments).length =
      (filled [] segments).length + segments.countP (fun segment => !segment.isLiteral) *
        value.length := by
  induction segments with
  | nil => simp [filled]
  | cons segment rest ih =>
      rw [filled, filled, List.flatMap_cons, List.flatMap_cons, ← filled, ← filled,
        List.length_append, List.length_append, ih, List.countP_cons]
      cases segment with
      | literal text => simp [isLiteral, Nat.add_assoc]
      | reference target =>
          simp only [isLiteral, Bool.not_false, if_true, Nat.add_mul, List.length_nil]
          omega

/-- What is produced behind a reference depends on the answer. -/
theorem produces_ne (member : .reference target ∈ front) :
    ∃ first second, Produces front first ∧ Produces front second ∧ first ≠ second := by
  refine ⟨_, _, produces_filled [] front, produces_filled ['x'] front, fun same => ?_⟩
  have lengths := length_filled ['x'] front
  have some_reference : 0 < front.countP fun segment => !segment.isLiteral :=
    List.countP_pos_iff.2 ⟨_, member, rfl⟩
  rw [← same, List.length_singleton, Nat.mul_one] at lengths
  omega

/-! ### What stands before a reference -/

/-- The location of a reference behind segments, where `here` is that of one that comes first, and
`atStart` says whether a literal that comes first is at the start. -/
def locationBehind (here : Location) (atStart : Bool) : List Segment → Location
  | [] => here
  | .literal text :: rest => locationBehind (.after text atStart) false rest
  | .reference _ :: rest => locationBehind .arbitrary false rest

/-- Each reference has the location that what stands before it gives to it. -/
theorem getElem?_locationsFrom (here : Location) (atStart : Bool) (front back : List Segment)
    (same : target.name = name) :
    (locationsFrom name here atStart (front ++ .reference target :: back))[
      (referencesTo name front).length]? = some (locationBehind here atStart front) := by
  induction front generalizing here atStart with
  | nil => simp [locationsFrom, referencesTo, same, locationBehind]
  | cons segment rest ih =>
      cases segment with
      | literal text => exact ih _ _
      | reference other =>
          rw [List.cons_append, locationsFrom, referencesTo, locationBehind]
          split
          · rw [List.length_cons, List.getElem?_cons_succ]
            exact ih _ _
          · exact ih _ _

/-- Behind a literal the location names it. -/
theorem locationBehind_concat_literal (here : Location) (atStart : Bool) (front : List Segment)
    (text : Text) :
    locationBehind here atStart (front ++ [.literal text]) =
      .after text (atStart && front.isEmpty) := by
  induction front generalizing here atStart with
  | nil => simp [locationBehind]
  | cons segment rest ih => cases segment <;> simp [locationBehind, ih]

/-- Behind a reference the location says nothing. -/
theorem locationBehind_concat_reference (here : Location) (atStart : Bool) (front : List Segment)
    (other : Reference) :
    locationBehind here atStart (front ++ [.reference other]) = .arbitrary := by
  induction front generalizing here atStart with
  | nil => rfl
  | cons segment rest ih => cases segment <;> exact ih _ _

end Template

open Template

/-- What a location says of the segments before a reference: what they produce ends with the
literal, and is the literal itself at the start; or else there is another reference before it. -/
def Location.Sound (front : List Segment) : Location → Prop
  | .after literal atStart =>
      ∀ text, Produces front text → literal <:+ text ∧ (atStart = true → text = literal)
  | .arbitrary => ∃ others other, front = others ++ [.reference other]

namespace Template

/-- What the location behind some segments says holds of every text that they produce. -/
theorem sound_locationBehind (front : List Segment) :
    (locationBehind (.after [] true) true front).Sound front := by
  rcases List.eq_nil_or_concat' front with rfl | ⟨others, last, rfl⟩
  · intro text produces
    rw [eq_nil_of_produces produces]
    exact ⟨List.suffix_rfl, fun _ => rfl⟩
  cases last with
  | reference other =>
      rw [locationBehind_concat_reference]
      exact ⟨others, other, rfl⟩
  | literal literal =>
      rw [locationBehind_concat_literal]
      intro text produces
      obtain ⟨start, started, rfl⟩ := exists_of_produces_concat produces
      refine ⟨List.suffix_append start literal, fun first => ?_⟩
      have alone : others = [] := by simpa using first
      subst alone
      rw [eq_nil_of_produces started, List.nil_append]

/-- Where no literals meet, a location is at the start exactly if one text only can be produced
before it. -/
theorem atStart_iff_of_apart (apart : Apart front) :
    (∃ literal, locationBehind (.after [] true) true front = .after literal true) ↔
      ∀ first second, Produces front first → Produces front second → first = second := by
  constructor
  · rintro ⟨literal, place⟩ first second first_produced second_produced
    have sound := sound_locationBehind front
    rw [place] at sound
    rw [(sound first first_produced).2 rfl, (sound second second_produced).2 rfl]
  · intro same
    have no_reference : ∀ other, .reference other ∉ front := by
      intro other member
      obtain ⟨first, second, first_produced, second_produced, differ⟩ := produces_ne member
      exact differ (same first second first_produced second_produced)
    -- Without references there is one literal at most, as two would meet.
    match front, apart, no_reference with
    | [], _, _ => exact ⟨[], rfl⟩
    | [.literal literal], _, _ => exact ⟨literal, rfl⟩
    | .reference other :: _, _, none_there =>
        exact absurd (List.mem_cons_self ..) (none_there other)
    | .literal _ :: .reference other :: _, _, none_there =>
        exact absurd (List.mem_cons_of_mem _ (List.mem_cons_self ..)) (none_there other)
    | .literal _ :: .literal _ :: _, apart, _ =>
        exact absurd ⟨rfl, rfl⟩ (List.isChain_cons_cons.1 apart).1

/-- Every location says something true of every evaluation. There are as many locations of a name
as references to it, and none only if there are no references. What is produced before a reference,
whatever answers the others, ends with the literal of its location, and is that literal if it is at
the start; or else the reference follows another one. In a template that has been read, the location
is at the start exactly if nothing else can be produced before the reference. -/
theorem find?_sound (segments : List Segment) (name : Text) :
    (find? ⟨segments⟩ name = none ↔ ∀ target, .reference target ∈ segments → target.name ≠ name) ∧
    ∀ first places, find? ⟨segments⟩ name = some (first, places) →
      (referencesTo name segments).head? = some first ∧
      places.length = (referencesTo name segments).length ∧
      ∀ front target back, segments = front ++ .reference target :: back → target.name = name →
        (∀ (ε σ : Type) (answer : Reference → ExceptT ε (StateM σ) (Option Text)),
          evaluate ⟨segments⟩ answer = (do
            let before ← evaluateSegments answer front
            let value ← answer target
            let behind ← evaluateSegments answer back
            pure (before ++ (value.getD [] ++ behind)))) ∧
        ∃ place, places[(referencesTo name front).length]? = some place ∧ place.Sound front ∧
          ∀ text, parse text = .ok ⟨segments⟩ →
            ((∃ literal, place = .after literal true) ↔
              ∀ first second, Produces front first → Produces front second → first = second) := by
  refine ⟨?_, fun first places found => ?_⟩
  · rw [find?, Option.map_eq_none_iff, List.head?_eq_none_iff, List.eq_nil_iff_forall_not_mem]
    simp only [mem_referencesTo, not_and, ne_eq]
  rw [find?, Option.map_eq_some_iff] at found
  obtain ⟨head, headed, shape⟩ := found
  cases shape
  refine ⟨headed, length_locations ⟨segments⟩ name, ?_⟩
  rintro front target back rfl named
  refine ⟨fun _ _ answer => evaluate_at answer front back target, ?_⟩
  refine ⟨locationBehind (.after [] true) true front, ?_, sound_locationBehind front, ?_⟩
  · exact getElem?_locationsFrom _ _ front back named
  · intro text read
    have apart := apart_normal (front ++ .reference target :: back)
    rw [(isNormal_of_parse read).fixed] at apart
    exact atStart_iff_of_apart apart.left_of_append

/-- A reference to `x`, a dash, and a reference to `x` again. -/
def dashed : List Segment :=
  [.reference ⟨['x'], none⟩, .literal ['-'], .reference ⟨['x'], none⟩]

/-- What stands before the second of two references ends with the dash between them, and can be more
than one text. -/
theorem find?_sound_dashed :
    parse ['{', 'x', '}', '-', '{', 'x', '}'] = .ok ⟨dashed⟩ ∧
      (∀ text, Produces (dashed.take 2) text → [CodePoint.scalar '-'] <:+ text) ∧
      ¬ ∀ first second, Produces (dashed.take 2) first → Produces (dashed.take 2) second →
        first = second := by
  have read : parse ['{', 'x', '}', '-', '{', 'x', '}'] = .ok ⟨dashed⟩ := rfl
  have found : find? ⟨dashed⟩ ['x'] =
      some (⟨['x'], none⟩, [.after [] true, .after ['-'] false]) := by decide
  obtain ⟨_, _, each⟩ := (find?_sound dashed ['x']).2 _ _ found
  obtain ⟨_, place, there, sound, start⟩ := each (dashed.take 2) ⟨['x'], none⟩ [] rfl rfl
  have second_place : place = .after ['-'] false := (Option.some.inj there).symm
  subst second_place
  refine ⟨read, fun text produces => (sound text produces).1, fun same => ?_⟩
  obtain ⟨literal, shape⟩ := (start _ read).2 same
  cases shape

end Template
end RecordingName
