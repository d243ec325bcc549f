import Mathlib.Data.List.Basic
import RecordingName.Proofs.Redaction.Decomposition

/-!
# Guarded placeholders

A message is searched for placeholders before any source is covered in it. If all placeholders
are `Bracketed`, a text can be taken apart into them and what stands between them in one way only,
by `Guarded.eq_of_content`. A redacted message is put together from just these parts, so that
`guarded_redact` finds them again: the placeholders where they were put, and the clear texts
between them.
-/

namespace RecordingName

/-- A text is what stands before the first occurrence of a character that it does not have. -/
theorem Text.takeWhile_ne_append {c : CodePoint} {text : Text} (without : c ∉ text) (behind : Text) :
    (text ++ c :: behind).takeWhile (· != c) = text := by
  have inside : ∀ other ∈ text, (other != c) = true := by
    intro other member
    simpa using ne_of_mem_of_not_mem member without
  rw [List.takeWhile_append_of_pos inside]
  simp

/-- A word in angle brackets, with no others inside. -/
def Bracketed (text : Text) : Prop :=
  ∃ word : Text, text = .scalar '<' :: (word ++ [CodePoint.scalar '>']) ∧
    .scalar '<' ∉ word ∧ .scalar '>' ∉ word

instance (text : Text) : Decidable (Bracketed text) :=
  decidable_of_iff (text = .scalar '<' :: (text.tail.dropLast ++ [CodePoint.scalar '>']) ∧
      .scalar '<' ∉ text.tail.dropLast ∧ .scalar '>' ∉ text.tail.dropLast) <| by
    constructor
    · exact fun shape => ⟨_, shape⟩
    · rintro ⟨word, rfl, opened, closed⟩
      simpa using ⟨opened, closed⟩

namespace Bracketed

variable {first second before rest other : Text}

theorem ne_nil (bracketed : Bracketed first) : first ≠ [] := by
  obtain ⟨word, rfl, _, _⟩ := bracketed
  exact List.cons_ne_nil _ _

theorem opens (bracketed : Bracketed first) : .scalar '<' ∈ first := by
  obtain ⟨word, rfl, _, _⟩ := bracketed
  exact List.mem_cons_self ..

/-- A bracketed word ends at its first closing bracket. -/
theorem eq_of_append (bracketed : Bracketed first) (also : Bracketed second)
    (same : first ++ rest = second ++ other) : first = second ∧ rest = other := by
  obtain ⟨word, rfl, _, closed⟩ := bracketed
  obtain ⟨others, rfl, _, also_closed⟩ := also
  simp only [List.cons_append, List.append_assoc, List.cons.injEq, true_and,
    List.nil_append] at same
  have words := congrArg (List.takeWhile (· != .scalar '>')) same
  rw [Text.takeWhile_ne_append closed, Text.takeWhile_ne_append also_closed] at words
  subst words
  exact ⟨rfl, (List.cons.inj (List.append_cancel_left same)).2⟩

/-- No bracket opens inside a bracketed word. -/
theorem notMem_behind (bracketed : Bracketed (before ++ rest)) (nonempty : before ≠ []) :
    .scalar '<' ∉ rest := by
  obtain ⟨word, shape, opened, _⟩ := bracketed
  obtain ⟨head, others, rfl⟩ := List.exists_cons_of_ne_nil nonempty
  have inside : others ++ rest = word ++ [CodePoint.scalar '>'] := (List.cons.inj shape).2
  intro member
  have found : .scalar '<' ∈ word ++ [CodePoint.scalar '>'] :=
    inside ▸ List.mem_append_right others member
  simp [opened] at found

/-- Where a bracketed word starts a text that has another one behind a beginning, it is a part of
that beginning: they cannot overlap. -/
theorem prefix_of_append (bracketed : Bracketed first) (also : Bracketed second)
    (nonempty : before ≠ []) (same : first ++ rest = before ++ (second ++ other)) :
    first <+: before := by
  rcases List.append_eq_append_iff.1 same with ⟨more, rfl, _⟩ | ⟨more, rfl, across⟩
  · exact List.prefix_append ..
  · cases more with
    | nil => simp
    | cons head others =>
        obtain ⟨word, rfl, _, _⟩ := also
        have opens : head = '<' := (List.cons.inj across).1.symm
        exact absurd (opens ▸ List.mem_cons_self ..) (bracketed.notMem_behind nonempty)

/-- Two bracketed words that stand behind texts without them stand at the same place. -/
theorem eq_of_append_append {front start : Text} (bracketed : Bracketed first)
    (also : Bracketed second) (front_free : ¬ second <:+: front) (start_free : ¬ first <:+: start)
    (same : front ++ (first ++ rest) = start ++ (second ++ other)) :
    front = start ∧ first = second ∧ rest = other := by
  rcases List.append_eq_append_iff.1 same with ⟨more, rfl, behind⟩ | ⟨more, rfl, behind⟩
  · by_cases empty : more = []
    · rw [empty, List.nil_append] at behind
      rw [empty, List.append_nil]
      exact ⟨rfl, bracketed.eq_of_append also behind⟩
    · have inside := bracketed.prefix_of_append also empty behind
      exact absurd (inside.isInfix.trans (List.suffix_append front more).isInfix) start_free
  · by_cases empty : more = []
    · rw [empty, List.nil_append] at behind
      rw [empty, List.append_nil]
      obtain ⟨words, rests⟩ := also.eq_of_append bracketed behind
      exact ⟨rfl, words.symm, rests.symm⟩
    · have inside := also.prefix_of_append bracketed empty behind
      exact absurd (inside.isInfix.trans (List.suffix_append start more).isInfix) front_free

end Bracketed

namespace Span

/-- A span as it is found when what it shows is redacted again. -/
def settled : Span → Span
  | .clear text => .clear text
  | .covered _ placeholder => .covered placeholder placeholder

variable {spans : List Span}

/-- A settled span holds what it shows. -/
theorem content_settled (span : Span) : span.settled.content = span.shown := by
  cases span <;> rfl

/-- Settling a span does not change what it shows. -/
theorem shown_settled (span : Span) : span.settled.shown = span.shown := by
  cases span <;> rfl

theorem flatMap_content_settled (spans : List Span) :
    (spans.map settled).flatMap content = spans.flatMap shown := by
  rw [List.flatMap_map]
  simp only [content_settled]

theorem flatMap_shown_settled (spans : List Span) :
    (spans.map settled).flatMap shown = spans.flatMap shown := by
  rw [List.flatMap_map]
  simp only [shown_settled]

/-- Settling makes no clear spans. -/
theorem clear_mem_settled {text : Text} (member : .clear text ∈ spans.map settled) :
    .clear text ∈ spans := by
  obtain ⟨span, span_mem, same⟩ := List.mem_map.1 member
  cases span with
  | clear other => exact same ▸ span_mem
  | covered source placeholder => cases same

end Span

/-- Clear texts that hold none of the given placeholders, and between them placeholders that cover
themselves. -/
inductive Guarded (placeholders : List Text) : List Span → Prop where
  | last (text : Text) (free : ∀ placeholder ∈ placeholders, ¬ placeholder <:+: text) :
      Guarded placeholders [.clear text]
  | next (text placeholder : Text) {rest : List Span}
      (free : ∀ placeholder ∈ placeholders, ¬ placeholder <:+: text)
      (known : placeholder ∈ placeholders) (later : Guarded placeholders rest) :
      Guarded placeholders (.clear text :: .covered placeholder placeholder :: rest)

variable {placeholders : List Text} {spans others : List Span}

/-- A text is taken apart into bracketed placeholders and what stands between them in one way. -/
theorem Guarded.eq_of_content
    (bracketed : ∀ placeholder ∈ placeholders, Bracketed placeholder)
    (guarded : Guarded placeholders spans) (also : Guarded placeholders others)
    (same : spans.flatMap Span.content = others.flatMap Span.content) : spans = others := by
  -- A placeholder that only one of the two has would stand in the last text of the other.
  have inside {text : Text} (placeholder : Text) {before behind : Text}
      (whole : text = before ++ (placeholder ++ behind)) : placeholder <:+: text :=
    ⟨before, behind, by rw [whole, List.append_assoc]⟩
  induction guarded generalizing others with
  | last text free =>
      cases also with
      | last other _ => simpa [Span.content] using same
      | next other placeholder _ known later =>
          simp only [List.flatMap_cons, List.flatMap_nil, Span.content, List.append_nil] at same
          exact absurd (inside placeholder same) (free placeholder known)
  | next text placeholder free known later ih =>
      simp only [List.flatMap_cons, Span.content] at same
      cases also with
      | last other other_free =>
          simp only [List.flatMap_cons, List.flatMap_nil, Span.content, List.append_nil] at same
          exact absurd (inside placeholder same.symm) (other_free placeholder known)
      | next other second other_free second_known second_later =>
          simp only [List.flatMap_cons, Span.content] at same
          obtain ⟨rfl, rfl, behind⟩ := (bracketed placeholder known).eq_of_append_append
            (bracketed second second_known) (free second second_known)
            (other_free placeholder known) same
          rw [ih second_later behind]

/-- Spans that take turns are guarded once they are settled, if they leave no placeholder clear and
show no others. -/
theorem Alternates.guarded (turns : Alternates spans)
    (free : ∀ text, .clear text ∈ spans →
      ∀ placeholder ∈ placeholders, ¬ placeholder <:+: text)
    (known : ∀ source placeholder, .covered source placeholder ∈ spans →
      placeholder ∈ placeholders) : Guarded placeholders (spans.map Span.settled) := by
  induction turns with
  | last text => exact .last text (free text (List.mem_cons_self ..))
  | next text source placeholder later ih =>
      refine .next text placeholder (free text (List.mem_cons_self ..))
        (known source placeholder (List.mem_cons_of_mem _ (List.mem_cons_self ..))) (ih ?_ ?_)
      · exact fun other member =>
          free other (List.mem_cons_of_mem _ (List.mem_cons_of_mem _ member))
      · exact fun earlier shown member =>
          known earlier shown (List.mem_cons_of_mem _ (List.mem_cons_of_mem _ member))

namespace Redactor

variable {redactor : Redactor}

/-- All placeholders of a redactor are bracketed. -/
def ShowsBrackets (redactor : Redactor) : Prop :=
  ∀ source placeholder, redactor.register.get? source = some placeholder → Bracketed placeholder

/-- The spans of a message when only its placeholders have been covered. -/
def guarded (redactor : Redactor) (message : Text) : List Span :=
  (redactor.placeholders.map fun placeholder => (placeholder, placeholder)).foldl
    (fun spans rule => Span.coverAll rule.1 rule.2 spans) [.clear message]

/-- The sources are covered in what the placeholders leave. -/
theorem spans_eq_foldl_guarded (redactor : Redactor) (message : Text) :
    redactor.spans message = (longestFirst (·.1) redactor.register.entries).foldl
      (fun spans rule => Span.coverAll rule.1 rule.2 spans) (redactor.guarded message) := by
  rw [spans, rules, List.foldl_append, ← guarded]

/-- Placeholders are not empty. -/
theorem nonempty_of_mem_guardRules (redactor : Redactor) : ∀ rule ∈
    redactor.placeholders.map fun placeholder => (placeholder, placeholder), rule.1 ≠ [] :=
  fun rule member => redactor.rules_nonempty rule (List.mem_append_left _ member)

/-- Guarding a message by its placeholders decomposes it by them. -/
theorem decomposed_guarded (redactor : Redactor) (message : Text) :
    Decomposed (redactor.placeholders.map fun placeholder => (placeholder, placeholder))
      (redactor.guarded message) := by
  have whole : Decomposed [] [.clear message] := ⟨.last message, by simp, by simp⟩
  exact whole.foldl_coverAll redactor.nonempty_of_mem_guardRules

/-- Guarding loses nothing of the message. -/
theorem flatMap_content_guarded (redactor : Redactor) (message : Text) :
    (redactor.guarded message).flatMap Span.content = message := by
  rw [guarded, Span.flatMap_content_foldl redactor.nonempty_of_mem_guardRules]
  simp [Span.content]

/-- What is covered in guarding covers itself. -/
theorem covered_mem_guarded {message source placeholder : Text}
    (member : .covered source placeholder ∈ redactor.guarded message) :
    source = placeholder ∧ placeholder ∈ redactor.placeholders := by
  have rule := (redactor.decomposed_guarded message).covered _ _ member
  obtain ⟨text, known, same⟩ := List.mem_map.1 rule
  cases same
  exact ⟨rfl, known⟩

/-- What guarding leaves clear holds no placeholder. -/
theorem not_infix_of_clear_mem_guarded {message text placeholder : Text}
    (clear : .clear text ∈ redactor.guarded message) (known : placeholder ∈ redactor.placeholders) :
    ¬ placeholder <:+: text :=
  (redactor.decomposed_guarded message).clear text clear (placeholder, placeholder)
    (List.mem_map.2 ⟨placeholder, known, rfl⟩)

/-- A guarded message is guarded by the placeholders. -/
theorem guarded_guarded (redactor : Redactor) (message : Text) :
    Guarded redactor.placeholders (redactor.guarded message) := by
  have settled : (redactor.guarded message).map Span.settled = redactor.guarded message := by
    refine (List.map_congr_left fun span member => ?_).trans (List.map_id _)
    cases span with
    | clear text => rfl
    | covered source placeholder =>
        rw [(covered_mem_guarded member).1]
        rfl
  rw [← settled]
  exact (redactor.decomposed_guarded message).alternates.guarded
    (fun _ clear _ known => not_infix_of_clear_mem_guarded clear known)
    fun _ _ member => (covered_mem_guarded member).2

namespace ShowsBrackets

variable (bracketed : redactor.ShowsBrackets)
include bracketed

/-- Bracketed placeholders all show something. -/
theorem mem_placeholders_iff (placeholder : Text) : placeholder ∈ redactor.placeholders ↔
    ∃ source, redactor.register.get? source = some placeholder := by
  rw [mem_placeholders, and_iff_right_iff_imp]
  rintro ⟨source, registered⟩
  exact (bracketed source placeholder registered).ne_nil

/-- The placeholders of a register of bracketed ones are bracketed. -/
theorem bracketed_of_mem : ∀ placeholder ∈ redactor.placeholders, Bracketed placeholder := by
  intro placeholder known
  obtain ⟨source, registered⟩ := (bracketed.mem_placeholders_iff placeholder).1 known
  exact bracketed source placeholder registered

/-- A redacted message is put together from placeholders and texts without them. -/
theorem guarded_settled_spans (message : Text) :
    Guarded redactor.placeholders ((redactor.spans message).map Span.settled) := by
  have decomposed := redactor.decomposed_spans message
  refine decomposed.alternates.guarded ?_ ?_
  · intro text clear placeholder known
    refine decomposed.clear text clear (placeholder, placeholder) ?_
    exact (mem_rules _ _ _).2 (.inr ⟨rfl, (redactor.mem_placeholders placeholder).1 known⟩)
  · intro source placeholder covered
    rw [bracketed.mem_placeholders_iff]
    rcases (mem_rules _ source placeholder).1 (decomposed.covered _ _ covered) with
      registered | ⟨_, _, registered⟩
    · exact ⟨source, registered⟩
    · exact registered

/-- In a redacted message the placeholders are found where they have been put. -/
theorem guarded_redact (message : Text) :
    redactor.guarded (redactor.redact message) = (redactor.spans message).map Span.settled := by
  refine (redactor.guarded_guarded _).eq_of_content bracketed.bracketed_of_mem
    (bracketed.guarded_settled_spans message) ?_
  rw [flatMap_content_guarded, Span.flatMap_content_settled, redact]

end ShowsBrackets

/-- The last placeholder of a source is one that it has been offered with. -/
theorem mem_of_lastPlaceholder? {calls : List (Text × Text)} {source placeholder : Text}
    (last : lastPlaceholder? calls source = some placeholder) : (source, placeholder) ∈ calls := by
  rw [lastPlaceholder?] at last
  split at last
  · cases last
  · obtain ⟨before, behind, shape, _⟩ := List.lookup_eq_some_iff.1 last
    rw [← List.mem_reverse, shape]
    exact List.mem_append_right _ (List.mem_cons_self ..)

/-- Sources offered with bracketed placeholders are registered with such. -/
theorem showsBrackets_ofCalls {calls : List (Text × Text)}
    (bracketed : ∀ call ∈ calls, Bracketed call.2) (order : SetOrder) :
    (ofCalls order calls).ShowsBrackets := by
  intro source placeholder registered
  rw [get?_ofCalls] at registered
  exact bracketed (source, placeholder) (mem_of_lastPlaceholder? registered)

end Redactor
end RecordingName
