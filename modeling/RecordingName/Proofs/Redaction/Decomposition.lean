import RecordingName.Proofs.Text.Cutting
import RecordingName.Redaction

/-!
# What a redaction covers

A redacted message is the message with some parts covered. `Decomposed` says of its spans
that clear and covered ones take turns, that each covered span is one of the rules, and
that no rule has its source left in a clear span; `Decomposed.coverAll` keeps it for one
rule more. `mem_rules` and `get?_ofCalls` put the rules in terms of what has been
registered.
-/

namespace RecordingName

variable {κ α : Type} [DecidableEq κ]

/-- A register holds one value for a key. -/
theorem Register.mem_entries_iff (register : Register κ α) (key : κ) (value : α) :
    (key, value) ∈ register.entries ↔ register.get? key = some value := by
  obtain ⟨entries, nodup⟩ := register
  change (key, value) ∈ entries ↔ entries.lookup key = some value
  induction entries with
  | nil => simp
  | cons entry rest ih =>
      obtain ⟨present, old⟩ := entry
      rw [List.map_cons, List.nodup_cons] at nodup
      rw [List.mem_cons, Prod.mk.injEq, ih nodup.2]
      by_cases same : key = present
      · subst same
        have absent : rest.lookup key ≠ some value := by
          intro found
          exact nodup.1 (List.mem_map.2 ⟨_, (ih nodup.2).2 found, rfl⟩)
        simp only [List.lookup_cons_self, true_and, absent, or_false, Option.some.injEq]
        exact eq_comm
      · have differs : (key == present) = false := by simpa using same
        simp [List.lookup_cons, differs, same]

/-- Clear and covered spans take turns, with clear ones at both ends. -/
inductive Alternates : List Span → Prop where
  | last (text : Text) : Alternates [.clear text]
  | next (text source placeholder : Text) {rest : List Span} (later : Alternates rest) :
      Alternates (.clear text :: .covered source placeholder :: rest)

namespace Span

variable {source placeholder : Text} {pieces : List Text}

/-- Woven texts alternate with what covers the places between them. -/
theorem alternates_weave (some_piece : pieces ≠ []) :
    Alternates (weave source placeholder pieces) := by
  induction pieces with
  | nil => exact absurd rfl some_piece
  | cons first others ih =>
      cases others with
      | nil => exact .last first
      | cons second more => exact .next first source placeholder (ih (List.cons_ne_nil second more))

/-- They still do in front of a covered span and alternating spans. -/
theorem alternates_weave_append (some_piece : pieces ≠ []) (earlier shown : Text)
    {rest : List Span} (later : Alternates rest) :
    Alternates (weave source placeholder pieces ++ .covered earlier shown :: rest) := by
  induction pieces with
  | nil => exact absurd rfl some_piece
  | cons first others ih =>
      cases others with
      | nil => exact .next first earlier shown later
      | cons second more => exact .next first source placeholder (ih (List.cons_ne_nil second more))

/-- The clear spans of a covering are the pieces between the occurrences. -/
theorem clear_mem_weave {text : Text} (member : .clear text ∈ weave source placeholder pieces) :
    text ∈ pieces := by
  fun_induction weave source placeholder pieces with
  | case1 => cases member
  | case2 only => simpa using member
  | case3 first second others ih =>
      rcases List.mem_cons.1 member with same | later
      · cases same
        exact List.mem_cons_self ..
      · rcases List.mem_cons.1 later with same | later
        · cases same
        · exact List.mem_cons_of_mem _ (ih later)

/-- Its covered spans are occurrences of the source, shown as the placeholder. -/
theorem covered_mem_weave {earlier shown : Text}
    (member : .covered earlier shown ∈ weave source placeholder pieces) :
    earlier = source ∧ shown = placeholder := by
  fun_induction weave source placeholder pieces with
  | case1 => cases member
  | case2 only => simp at member
  | case3 first second others ih =>
      rcases List.mem_cons.1 member with same | later
      · cases same
      · rcases List.mem_cons.1 later with same | later
        · cases same
          exact ⟨rfl, rfl⟩
        · exact ih later

/-- Covering one more source keeps the turns. -/
theorem alternates_coverAll {spans : List Span} (turns : Alternates spans) :
    Alternates (coverAll source placeholder spans) := by
  induction turns with
  | last text =>
      rw [coverAll, List.flatMap_cons, List.flatMap_nil, List.append_nil]
      exact alternates_weave (Text.cut_ne_nil source text)
  | next text earlier shown later ih =>
      rw [coverAll, List.flatMap_cons, List.flatMap_cons]
      exact alternates_weave_append (Text.cut_ne_nil source text) earlier shown ih

/-- A source that no clear span holds covers nothing. -/
theorem coverAll_of_absent {spans : List Span} (placeholder : Text)
    (absent : ∀ text, .clear text ∈ spans → ¬ source <:+: text) :
    coverAll source placeholder spans = spans := by
  induction spans with
  | nil => rfl
  | cons span rest ih =>
      have alone : cover source placeholder span = [span] := by
        cases span with
        | clear text => rw [cover, Text.cut_of_not_infix (absent text (List.mem_cons_self ..)), weave]
        | covered earlier shown => rfl
      rw [coverAll, List.flatMap_cons, alone, ← coverAll,
        ih fun text member => absent text (List.mem_cons_of_mem _ member)]
      rfl

/-- Neither do several. -/
theorem foldl_coverAll_of_absent {spans : List Span} {rules : List (Text × Text)}
    (absent : ∀ rule ∈ rules, ∀ text, .clear text ∈ spans → ¬ rule.1 <:+: text) :
    rules.foldl (fun spans rule => coverAll rule.1 rule.2 spans) spans = spans := by
  induction rules with
  | nil => rfl
  | cons rule others ih =>
      rw [List.foldl_cons, coverAll_of_absent rule.2 (absent rule (List.mem_cons_self ..))]
      exact ih fun other member => absent other (List.mem_cons_of_mem _ member)

end Span

/-- What redacting by rules leads to: clear and covered spans take turns, every covered span is
a rule, and the source of no rule is left in a clear span. -/
structure Decomposed (rules : List (Text × Text)) (spans : List Span) : Prop where
  alternates : Alternates spans
  covered : ∀ source placeholder, .covered source placeholder ∈ spans →
    (source, placeholder) ∈ rules
  clear : ∀ text, .clear text ∈ spans → ∀ rule ∈ rules, ¬ rule.1 <:+: text

namespace Decomposed

/-- One more rule is covered: only clear spans are cut, so that what was covered stays and what
was found nowhere is still found nowhere. -/
theorem coverAll {rules : List (Text × Text)} {spans : List Span} {source : Text}
    (decomposed : Decomposed rules spans) (nonempty : source ≠ []) (placeholder : Text) :
    Decomposed (rules ++ [(source, placeholder)]) (Span.coverAll source placeholder spans) := by
  refine ⟨Span.alternates_coverAll decomposed.alternates, ?_, ?_⟩
  · intro earlier shown member
    obtain ⟨span, span_mem, inside⟩ := List.mem_flatMap.1 member
    cases span with
    | clear text =>
        obtain ⟨rfl, rfl⟩ := Span.covered_mem_weave inside
        exact List.mem_append_right _ (List.mem_singleton_self _)
    | covered before hidden =>
        cases List.mem_singleton.1 inside
        exact List.mem_append_left _ (decomposed.covered _ _ span_mem)
  · intro text member rule rule_mem
    obtain ⟨span, span_mem, inside⟩ := List.mem_flatMap.1 member
    cases span with
    | clear whole =>
        have piece := Span.clear_mem_weave inside
        rcases List.mem_append.1 rule_mem with earlier | last
        · intro found
          exact decomposed.clear whole span_mem rule earlier
            (found.trans (Text.infix_of_mem_cut nonempty piece))
        · rw [List.mem_singleton.1 last]
          exact Text.not_infix_of_mem_cut nonempty piece
    | covered before hidden => cases List.mem_singleton.1 inside

/-- Rule by rule, all of them are covered. -/
theorem foldl_coverAll {later rules : List (Text × Text)} {spans : List Span}
    (decomposed : Decomposed rules spans) (nonempty : ∀ rule ∈ later, rule.1 ≠ []) :
    Decomposed (rules ++ later)
      (later.foldl (fun spans rule => Span.coverAll rule.1 rule.2 spans) spans) := by
  induction later generalizing rules spans with
  | nil =>
      rw [List.append_nil]
      exact decomposed
  | cons rule others ih =>
      have covered := decomposed.coverAll (nonempty rule (List.mem_cons_self ..)) rule.2
      have all := ih covered fun other member => nonempty other (List.mem_cons_of_mem _ member)
      rw [List.append_assoc] at all
      exact all

end Decomposed

namespace Redactor

/-- The spans of a message are decomposed by the rules of the redactor. -/
theorem decomposed_spans (redactor : Redactor) (message : Text) :
    Decomposed redactor.rules (redactor.spans message) := by
  have whole : Decomposed [] [.clear message] := ⟨.last message, by simp, by simp⟩
  exact whole.foldl_coverAll redactor.rules_nonempty

/-- Messages are searched for the registered placeholders that show anything. -/
theorem mem_placeholders (redactor : Redactor) (placeholder : Text) :
    placeholder ∈ redactor.placeholders ↔
      placeholder ≠ [] ∧ ∃ hidden, redactor.register.get? hidden = some placeholder := by
  have value : placeholder ∈ redactor.register.values ↔
      ∃ hidden, redactor.register.get? hidden = some placeholder := by
    simp only [Register.values, List.mem_map, Prod.exists, exists_eq_right,
      Register.mem_entries_iff]
  rw [placeholders, longestFirst, (List.mergeSort_perm _ _).mem_iff, List.mem_filter,
    (redactor.order.enumerate_perm _).mem_iff, List.mem_eraseDups, value, and_comm]
  simp

/-- The rules are the registered sources with their placeholders, and the placeholders that show
anything with themselves. -/
theorem mem_rules (redactor : Redactor) (source placeholder : Text) :
    (source, placeholder) ∈ redactor.rules ↔
      redactor.register.get? source = some placeholder ∨
        source = placeholder ∧ placeholder ≠ [] ∧
          ∃ hidden, redactor.register.get? hidden = some placeholder := by
  rw [rules, List.mem_append, longestFirst, (List.mergeSort_perm _ _).mem_iff,
    Register.mem_entries_iff, or_comm]
  refine or_congr_right ?_
  rw [← mem_placeholders, List.mem_map]
  constructor
  · rintro ⟨text, member, same⟩
    cases same
    exact ⟨rfl, member⟩
  · rintro ⟨rfl, member⟩
    exact ⟨_, member, rfl⟩

/-- A redactor to which a source has been offered: empty ones are refused. -/
def offered (redactor : Redactor) (source placeholder : Text) : Redactor :=
  (redactor.add? source placeholder).getD redactor

/-- A redactor to which sources have been offered one after the other. -/
def offeredAll (redactor : Redactor) (calls : List (Text × Text)) : Redactor :=
  calls.foldl (fun redactor call => redactor.offered call.1 call.2) redactor

/-- The redactor to which sources have been offered one after the other from the start. -/
def ofCalls (order : SetOrder) (calls : List (Text × Text)) : Redactor :=
  calls.foldl (fun redactor call => redactor.offered call.1 call.2) (.empty order)

/-- The placeholder under which a source has been registered last. -/
def lastPlaceholder? (calls : List (Text × Text)) (source : Text) : Option Text :=
  if source = [] then none else calls.reverse.lookup source

/-- An offer changes what is registered for its source, unless that is empty. -/
theorem get?_offered (redactor : Redactor) (source placeholder other : Text) :
    (redactor.offered source placeholder).register.get? other =
      if other = source ∧ source ≠ [] then some placeholder else redactor.register.get? other := by
  by_cases empty : source = []
  · simp [offered, add?, empty]
  · simp only [offered, add?, dif_neg empty, Option.getD_some, add, ne_eq, empty, not_false_eq_true,
      and_true]
    split
    next same =>
      rw [same]
      exact Register.get?_put_self ..
    next different => exact Register.get?_put_of_ne _ different _

/-- The registered placeholder of an offered source is the last one that it has been given, and
that of any other source stays. -/
theorem get?_offeredAll (redactor : Redactor) (calls : List (Text × Text)) (source : Text) :
    (redactor.offeredAll calls).register.get? source =
      (lastPlaceholder? calls source).or (redactor.register.get? source) := by
  induction calls generalizing redactor with
  | nil => simp [offeredAll, lastPlaceholder?]
  | cons call others ih =>
      obtain ⟨registered, placeholder⟩ := call
      have behind := ih (redactor.offered registered placeholder)
      rw [offeredAll] at behind
      rw [offeredAll, List.foldl_cons, behind, get?_offered, lastPlaceholder?, lastPlaceholder?]
      by_cases empty : source = []
      · simp [empty]
      · by_cases same : source = registered
        · subst same
          simp [empty, List.lookup_append]
        · have differs : (source == registered) = false := by simpa using same
          simp [empty, same, List.lookup_append, List.lookup_cons, differs]

/-- The registered placeholder of a source is the last one that it has been given. -/
theorem get?_ofCalls (order : SetOrder) (calls : List (Text × Text)) (source : Text) :
    (ofCalls order calls).register.get? source = lastPlaceholder? calls source := by
  have nothing : (empty order).register.get? source = none := rfl
  have offered := (empty order).get?_offeredAll calls source
  rw [nothing, Option.or_none] at offered
  exact offered

/-- A covered part of a message, and the clear text up to the next one. -/
structure Cover where
  source : Text
  placeholder : Text
  following : Text

/-- The spans of a covered part. -/
def Cover.spans (cover : Cover) : List Span :=
  [.covered cover.source cover.placeholder, .clear cover.following]

/-- Alternating spans are a clear text and covered parts behind it. -/
theorem exists_covers {spans : List Span} (turns : Alternates spans) :
    ∃ (first : Text) (covers : List Cover), spans = .clear first :: covers.flatMap Cover.spans := by
  induction turns with
  | last text => exact ⟨text, [], rfl⟩
  | next text source placeholder later ih =>
      obtain ⟨following, covers, rfl⟩ := ih
      exact ⟨text, ⟨source, placeholder, following⟩ :: covers, rfl⟩

/-- What stands in front of covered parts and behind each of them is clear. -/
theorem clear_mem_covers {first text : Text} {covers : List Cover}
    (member : text ∈ first :: covers.map Cover.following) :
    Span.clear text ∈ .clear first :: covers.flatMap Cover.spans := by
  rcases List.mem_cons.1 member with rfl | later
  · exact List.mem_cons_self ..
  · obtain ⟨cover, cover_mem, rfl⟩ := List.mem_map.1 later
    refine List.mem_cons_of_mem _ (List.mem_flatMap.2 ⟨cover, cover_mem, ?_⟩)
    exact List.mem_cons_of_mem _ (List.mem_singleton_self _)

/-- A redacted message is the message with some of its parts covered. Each of these is a source
with the placeholder registered for it last, or else a placeholder that covers itself; and
neither a source nor a placeholder that shows anything is left in the texts between them. This is
so whatever the order in which placeholders of one length are searched for. -/
theorem redact_decomposition (order : SetOrder) (calls : List (Text × Text)) (message : Text) :
    ∃ (first : Text) (covers : List Cover),
      message = first ++ covers.flatMap (fun cover => cover.source ++ cover.following) ∧
      (ofCalls order calls).redact message =
        first ++ covers.flatMap (fun cover => cover.placeholder ++ cover.following) ∧
      (∀ cover ∈ covers, lastPlaceholder? calls cover.source = some cover.placeholder ∨
        cover.source = cover.placeholder ∧ cover.placeholder ≠ [] ∧
          ∃ source, lastPlaceholder? calls source = some cover.placeholder) ∧
      ∀ text ∈ first :: covers.map Cover.following, ∀ source placeholder,
        lastPlaceholder? calls source = some placeholder →
          ¬ source <:+: text ∧ (placeholder ≠ [] → ¬ placeholder <:+: text) := by
  have decomposed := (ofCalls order calls).decomposed_spans message
  obtain ⟨first, covers, shape⟩ := exists_covers decomposed.alternates
  have shown := congrArg (List.flatMap Span.shown) shape
  have meant := flatMap_content_spans (ofCalls order calls) message
  rw [shape] at decomposed meant
  refine ⟨first, covers, ?_, ?_, ?_, ?_⟩
  · rw [← meant, List.flatMap_cons, List.flatMap_assoc]
    simp [Span.content, Cover.spans]
  · rw [redact, shown, List.flatMap_cons, List.flatMap_assoc]
    simp [Span.shown, Cover.spans]
  · intro cover member
    have covered : Span.covered cover.source cover.placeholder ∈ covers.flatMap Cover.spans :=
      List.mem_flatMap.2 ⟨cover, member, List.mem_cons_self ..⟩
    have rule := decomposed.covered _ _ (List.mem_cons_of_mem _ covered)
    simpa only [mem_rules, get?_ofCalls] using rule
  · intro text member source placeholder registered
    have clear := clear_mem_covers member
    have rule_of_registered := (ofCalls order calls).mem_rules
    simp only [get?_ofCalls] at rule_of_registered
    constructor
    · exact decomposed.clear text clear _
        ((rule_of_registered source placeholder).2 (.inl registered))
    · intro shows
      exact decomposed.clear text clear _ ((rule_of_registered placeholder placeholder).2
        (.inr ⟨rfl, shows, source, registered⟩))

-- Placeholders of one length that overlap in a message tell which of them is searched for first.
example :
    let calls := [("a".text, "ab".text), ("b".text, "ba".text)]
    (ofCalls .byOccurrence calls).redact "aba".text = "abab".text ∧
      (ofCalls ⟨fun texts => texts.eraseDups.reverse, fun _ => List.reverse_perm _⟩ calls).redact
        "aba".text = "abba".text := by
  cbv

end Redactor
end RecordingName
