import RecordingName.Register
import RecordingName.Text.Percent

/-!
# Redaction

A redactor hides registered sources behind their placeholders. Placeholders that
stand in a message are protected first, so that no source matches inside one;
then the sources are covered, longer ones before shorter ones. Placeholders of one
length come in the order of a set, which may be any: `SetOrder`. A message is kept
as spans that know what they stood for: `flatMap_content_spans` says that the
spans of a message are that message.
-/

namespace RecordingName

/-- A part of a message: text that shows, or a source covered by a placeholder. -/
inductive Span where
  | clear (text : Text)
  | covered (source placeholder : Text)
  deriving DecidableEq, Repr

namespace Span

/-- The text that a span stood for. -/
def content : Span → Text
  | .clear text => text
  | .covered source _ => source

/-- The text that a span shows. -/
def shown : Span → Text
  | .clear text => text
  | .covered _ placeholder => placeholder

/-- Clear texts with a covered source between neighbours. -/
def weave (source placeholder : Text) : List Text → List Span
  | [] => []
  | [only] => [.clear only]
  | first :: second :: others =>
      .clear first :: .covered source placeholder :: weave source placeholder (second :: others)

/-- Cover the occurrences of a source in a span that is still clear. -/
def cover (source placeholder : Text) : Span → List Span
  | .clear text => weave source placeholder (Text.cut source text)
  | .covered earlier shown => [.covered earlier shown]

/-- Cover the occurrences of a source in every span that is still clear. -/
def coverAll (source placeholder : Text) (spans : List Span) : List Span :=
  spans.flatMap (cover source placeholder)

/-- A covering holds the pieces with the source between them. -/
theorem flatMap_content_weave (source placeholder : Text) (pieces : List Text) :
    (weave source placeholder pieces).flatMap content = Text.join source pieces := by
  fun_induction weave source placeholder pieces with
  | case1 => rfl
  | case2 => simp [content, Text.join]
  | case3 first second others ih =>
      rw [List.flatMap_cons, List.flatMap_cons, ih]
      simp [content, Text.join]

/-- Covering a source changes what shows, not what is meant. -/
theorem flatMap_content_coverAll {source : Text} (nonempty : source ≠ []) (placeholder : Text)
    (spans : List Span) :
    (coverAll source placeholder spans).flatMap content = spans.flatMap content := by
  induction spans with
  | nil => rfl
  | cons span rest ih =>
      rw [coverAll, List.flatMap_cons, List.flatMap_append, List.flatMap_cons, ← coverAll, ih]
      congr 1
      cases span with
      | clear text => simp [cover, flatMap_content_weave, Text.cut_join nonempty, content]
      | covered => simp [cover, content]

/-- Rule by rule, covering changes what shows, not what is meant. -/
theorem flatMap_content_foldl {rules : List (Text × Text)} (nonempty : ∀ rule ∈ rules, rule.1 ≠ [])
    (spans : List Span) :
    (rules.foldl (fun spans rule => coverAll rule.1 rule.2 spans) spans).flatMap content =
      spans.flatMap content := by
  induction rules generalizing spans with
  | nil => rfl
  | cons rule others ih =>
      rw [List.foldl_cons, ih fun other member => nonempty other (List.mem_cons_of_mem _ member),
        flatMap_content_coverAll (nonempty rule (List.mem_cons_self ..))]

end Span

/-- An order in which the members of a set are enumerated, each of them once, whatever
has been put into the set. -/
structure SetOrder where
  enumerate : List Text → List Text
  enumerate_perm : ∀ texts, (enumerate texts).Perm texts.eraseDups

/-- The members of a set in the order in which they were put in first. -/
def SetOrder.byOccurrence : SetOrder :=
  ⟨List.eraseDups, fun _ => .refl _⟩

/-- The registered sources and their placeholders, and the order in which the set of
placeholders is enumerated. -/
structure Redactor where
  order : SetOrder
  register : Register Text Text
  sources_nonempty : ∀ entry ∈ register.entries, entry.1 ≠ []

namespace Redactor

/-- The redactor that hides nothing. -/
def empty (order : SetOrder) : Redactor := ⟨order, .empty, by simp [Register.empty]⟩

/-- An entry is the one that was put or one that was there. -/
theorem mem_putEntry {source placeholder : Text} {entries : List (Text × Text)}
    {entry : Text × Text} (found : entry ∈ Register.putEntry source placeholder entries) :
    entry = (source, placeholder) ∨ entry ∈ entries := by
  induction entries with
  | nil => simpa [Register.putEntry] using found
  | cons head rest ih =>
      by_cases same : head.1 = source
      · rw [Register.putEntry, if_pos same] at found
        rcases List.mem_cons.1 found with rfl | later
        · exact .inl rfl
        · exact .inr (List.mem_cons_of_mem _ later)
      · rw [Register.putEntry, if_neg same] at found
        rcases List.mem_cons.1 found with rfl | later
        · exact .inr (List.mem_cons_self ..)
        · rcases ih later with added | old
          · exact .inl added
          · exact .inr (List.mem_cons_of_mem _ old)

/-- Register a source, or give it another placeholder. -/
def add (redactor : Redactor) (source placeholder : Text) (nonempty : source ≠ []) : Redactor where
  order := redactor.order
  register := redactor.register.put source placeholder
  sources_nonempty entry found := by
    rcases mem_putEntry found with rfl | old
    · exact nonempty
    · exact redactor.sources_nonempty entry old

/-- Register a source unless it is empty. -/
def add? (redactor : Redactor) (source placeholder : Text) : Option Redactor :=
  if empty : source = [] then none else some (redactor.add source placeholder empty)

/-- The message about an empty source. -/
def emptySourceMessage : Text := "Redaction source cannot be empty".text

/-- Texts sorted by falling length; texts of one length keep their order. -/
def longestFirst {α : Type} (key : α → Text) (items : List α) : List α :=
  items.mergeSort fun first second => (key second).length ≤ (key first).length

/-- The placeholders that messages are searched for. Those of one length keep the order
of the set of placeholders. -/
def placeholders (redactor : Redactor) : List Text :=
  longestFirst id ((redactor.order.enumerate redactor.register.values).filter (· ≠ []))

/-- What is covered, in order: every placeholder by itself, then every source. -/
def rules (redactor : Redactor) : List (Text × Text) :=
  redactor.placeholders.map (fun placeholder => (placeholder, placeholder)) ++
    longestFirst (·.1) redactor.register.entries

/-- The spans of a message. -/
def spans (redactor : Redactor) (message : Text) : List Span :=
  redactor.rules.foldl (fun spans rule => Span.coverAll rule.1 rule.2 spans) [.clear message]

/-- A message with every registered source hidden. -/
def redact (redactor : Redactor) (message : Text) : Text :=
  (redactor.spans message).flatMap Span.shown

/-- A percent-encoded message, decoded and with every registered source hidden. -/
def redactEncoded (redactor : Redactor) (message : Text) : Text :=
  redactor.redact (Text.Percent.decode message)

/-- No rule has an empty source. -/
theorem rules_nonempty (redactor : Redactor) : ∀ rule ∈ redactor.rules, rule.1 ≠ [] := by
  intro rule found
  rcases List.mem_append.1 found with placeholder | source
  · obtain ⟨text, text_mem, rfl⟩ := List.mem_map.1 placeholder
    have := (List.mem_filter.1 ((List.mergeSort_perm _ _).mem_iff.1 text_mem)).2
    simpa using this
  · exact redactor.sources_nonempty rule ((List.mergeSort_perm _ _).mem_iff.1 source)

/-- The spans of a message, put back to what they stood for, are the message. -/
theorem flatMap_content_spans (redactor : Redactor) (message : Text) :
    (redactor.spans message).flatMap Span.content = message := by
  rw [spans, Span.flatMap_content_foldl redactor.rules_nonempty]
  simp [Span.content]

end Redactor

/-- The place that an index means in a text, where a negative index counts from the
end. -/
def Text.place (text : Text) (index : Int) : Nat :=
  if index < 0 then (text.length + index).toNat else index.toNat

/-- A text with all but `keep` characters at each end hidden, or hidden whole if that
would leave nothing between them. -/
def Text.truncated (keep : Int) (text : Text) : Text :=
  let mark := "<...>".text
  if 2 * keep < text.length then
    text.take (text.place keep) ++ mark ++ text.drop (text.place (-keep))
  else
    mark

end RecordingName
