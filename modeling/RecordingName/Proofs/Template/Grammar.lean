import RecordingName.Proofs.Template.RoundTrip

/-!
# The grammar of templates

A template is written item by item: a character that stands for itself, a character behind a
backslash, or a reference in braces. Reading accepts exactly what items write, and as what they
mean: `parse_eq_ok_iff`. A text is written by one sequence of items at most, by
`written_injective`. Any other text starts with items and goes on with a `Flaw`, which tells the
fault and where it lies: `parse_eq_error_iff`.
-/

namespace RecordingName.Template

/-- What stands in the braces of a reference: a name and, behind a colon, an argument. -/
structure Inside where
  name : List (Sign isSpecialInName)
  argument : Option (List (Sign isSpecial))

namespace Inside

/-- The reference that is meant, with the blanks around its name. -/
def target (inside : Inside) : Reference :=
  ⟨unescaped inside.name, inside.argument.map unescaped⟩

/-- An argument as it is written, with the colon before it. -/
def writtenArgument : Option (List (Sign isSpecial)) → Text
  | none => []
  | some signs => .scalar ':' :: writtenSigns signs

/-- The inside of a reference as it is written. -/
def written (inside : Inside) : Text :=
  writtenSigns inside.name ++ writtenArgument inside.argument

/-- The inside of a reference that a text starts with, and what stands behind it. -/
def take (text : Text) : Inside × Text :=
  let name := takeSigns isSpecialInName text
  if name.2.head? = some (.scalar ':') then
    let argument := takeSigns isSpecial name.2.tail
    (⟨name.1, some argument.1⟩, argument.2)
  else (⟨name.1, none⟩, name.2)

/-- Where the inside of a reference ends: at the end of the text, perhaps with a backslash left, or
at a brace. -/
def Ends (rest : Text) : Prop :=
  rest = [] ∨ rest = [CodePoint.scalar '\\'] ∨
    (∃ more, rest = .scalar '{' :: more) ∨ ∃ more, rest = .scalar '}' :: more

/-- Nothing of a text is lost when the inside of a reference is taken. -/
theorem written_take (text : Text) : (take text).1.written ++ (take text).2 = text := by
  have named := @writtenSigns_takeSigns isSpecialInName text
  unfold take written
  dsimp only
  split
  next colon =>
    obtain ⟨rest, shape⟩ := List.head?_eq_some_iff.1 colon
    have argued := @writtenSigns_takeSigns isSpecial rest
    rw [shape] at named ⊢
    rw [writtenArgument, List.append_assoc, List.tail_cons, List.cons_append, argued, named]
  next => simpa [writtenArgument] using named

/-- Behind the signs that are taken stands a character that ends them. -/
theorem ends_take (text : Text) : Ends (take text).2 := by
  unfold take Ends
  dsimp only
  split
  next colon =>
    rcases @takeSigns_rest isSpecial (takeSigns isSpecialInName text).2.tail with
      done | left | ⟨c, rest, shape, no_escape, found⟩
    · exact .inl done
    · exact .inr (.inl left)
    · have brace : c = '{' ∨ c = '}' := by simpa [isSpecial, no_escape] using found
      rw [shape]
      rcases brace with rfl | rfl
      · exact .inr (.inr (.inl ⟨rest, rfl⟩))
      · exact .inr (.inr (.inr ⟨rest, rfl⟩))
  next other =>
    rcases @takeSigns_rest isSpecialInName text with
      done | left | ⟨c, rest, shape, no_escape, found⟩
    · exact .inl done
    · exact .inr (.inl left)
    · rw [shape] at other ⊢
      have no_colon : c ≠ ':' := by
        rintro rfl
        exact other rfl
      have brace : c = '{' ∨ c = '}' := by
        simpa [isSpecialInName, isSpecial, no_escape, no_colon] using found
      rcases brace with rfl | rfl
      · exact .inr (.inr (.inl ⟨rest, rfl⟩))
      · exact .inr (.inr (.inr ⟨rest, rfl⟩))

/-- The inside of a reference is taken as it has been written, up to the closing brace. -/
theorem take_written (inside : Inside) (rest : Text) :
    take (inside.written ++ .scalar '}' :: rest) = (inside, .scalar '}' :: rest) := by
  obtain ⟨name, argument⟩ := inside
  unfold take written
  dsimp only
  cases argument with
  | none =>
      rw [writtenArgument, List.append_nil,
        takeSigns_writtenSigns (by decide) name (.cons (by decide) (by decide) rest)]
      rfl
  | some signs =>
      have named := takeSigns_writtenSigns (by decide) name
        (.cons (by decide) (by decide) (writtenSigns signs ++ .scalar '}' :: rest) :
          Halts isSpecialInName (.scalar ':' :: (writtenSigns signs ++ .scalar '}' :: rest)))
      have argued := takeSigns_writtenSigns (by decide) signs
        (.cons (by decide) (by decide) rest : Halts isSpecial (.scalar '}' :: rest))
      rw [writtenArgument, List.append_assoc, List.cons_append, named]
      simp only [List.head?_cons, List.tail_cons, if_true, argued]

end Inside

/-- One item of a template as it is written: a character of literal text, or a reference whose
name is not blank. -/
inductive Item where
  | character (sign : Sign isSpecial)
  | reference (inside : Inside) (named : Text.strip inside.target.name ≠ [])

namespace Item

/-- An item as it is written. -/
def written : Item → Text
  | .character sign => sign.written
  | .reference inside _ => .scalar '{' :: (inside.written ++ [CodePoint.scalar '}'])

/-- The segment that an item stands for. -/
def segment : Item → Segment
  | .character sign => .literal [sign.char]
  | .reference inside _ => .reference inside.target

end Item

/-- Items as they are written. -/
def written (items : List Item) : Text :=
  items.flatMap Item.written

/-- What items mean: their segments, with neighbouring characters put together and without blanks
around the names. -/
def meaning (items : List Item) : List Segment :=
  normal (items.map Item.segment)

/-- What keeps a text from going on with an item, and where it lies: a backslash at the end, a
closing brace without a reference, or a reference that is not closed, holds another opening brace,
or has a blank name. -/
inductive Flaw : SyntaxError → Text → Prop where
  | escape : Flaw ⟨.danglingEscape, 0⟩ ['\\']
  | close (rest : Text) : Flaw ⟨.unmatchedClose, 0⟩ (.scalar '}' :: rest)
  | escapeInside (inside : Inside) :
      Flaw ⟨.danglingEscape, inside.written.length + 1⟩
        (.scalar '{' :: (inside.written ++ [CodePoint.scalar '\\']))
  | openInside (inside : Inside) (rest : Text) :
      Flaw ⟨.nestedOpen, inside.written.length + 1⟩
        (.scalar '{' :: (inside.written ++ .scalar '{' :: rest))
  | unclosed (inside : Inside) : Flaw ⟨.unterminated, 0⟩ (.scalar '{' :: inside.written)
  | unnamed (inside : Inside) (blank : Text.strip inside.target.name = []) (rest : Text) :
      Flaw ⟨.emptyName, 0⟩ (.scalar '{' :: (inside.written ++ .scalar '}' :: rest))

/-- Behind an opening brace there is the rest of a reference, or else a flaw. -/
theorem reference_or_flaw (text : Text) :
    (∃ item rest, .scalar '{' :: text = Item.written item ++ rest) ∨
      ∃ error, Flaw error (.scalar '{' :: text) := by
  have taken := Inside.written_take text
  generalize (Inside.take text).1 = inside at taken
  rcases Inside.ends_take text with done | left | ⟨more, brace⟩ | ⟨more, brace⟩
  · rw [done, List.append_nil] at taken
    subst taken
    exact .inr ⟨_, .unclosed inside⟩
  · rw [left] at taken
    subst taken
    exact .inr ⟨_, .escapeInside inside⟩
  · rw [brace] at taken
    subst taken
    exact .inr ⟨_, .openInside inside more⟩
  · rw [brace] at taken
    subst taken
    by_cases blank : Text.strip inside.target.name = []
    · exact .inr ⟨_, .unnamed inside blank more⟩
    · refine .inl ⟨.reference inside blank, more, ?_⟩
      rw [Item.written, List.cons_append, List.append_assoc, List.singleton_append]

/-- A text that is not empty starts with an item, or else has a flaw. -/
theorem item_or_flaw (head : CodePoint) (others : Text) :
    (∃ item rest, head :: others = Item.written item ++ rest) ∨
      ∃ error, Flaw error (head :: others) := by
  by_cases escapes : head = '\\'
  · subst escapes
    cases others with
    | nil => exact .inr ⟨_, .escape⟩
    | cons c more => exact .inl ⟨.character (.escaped c), more, rfl⟩
  by_cases opens : head = '{'
  · subst opens
    exact reference_or_flaw others
  by_cases closes : head = '}'
  · subst closes
    exact .inr ⟨_, .close others⟩
  · have ordinary : isSpecial head = false := by simp [isSpecial, opens, closes, escapes]
    exact .inl ⟨.character (.plain head ordinary), others, rfl⟩

/-- No item is written with nothing. -/
theorem Item.length_written_pos (item : Item) : 0 < item.written.length := by
  cases item with
  | character sign => cases sign <;> exact Nat.succ_pos _
  | reference inside named => exact Nat.succ_pos _

/-- Every text is items, or items with a flaw behind them. -/
theorem exists_items (text : Text) :
    ∃ items rest, text = written items ++ rest ∧ (rest = [] ∨ ∃ error, Flaw error rest) := by
  induction length : text.length using Nat.strongRecOn generalizing text with
  | ind count ih =>
      cases text with
      | nil => exact ⟨[], [], rfl, .inl rfl⟩
      | cons head others =>
          rcases item_or_flaw head others with ⟨item, rest, shape⟩ | flaw
          · have shorter : rest.length < count := by
              have width := congrArg List.length shape
              have some_width := item.length_written_pos
              rw [List.length_append] at width
              omega
            obtain ⟨items, left, more, stops⟩ := ih rest.length shorter rest rfl
            refine ⟨item :: items, left, ?_, stops⟩
            rw [shape, more, written, written, List.flatMap_cons, List.append_assoc]
          · exact ⟨[], _, rfl, .inr flaw⟩

/-! ### One derivation -/

/-- What stands behind an item is told apart from it. -/
theorem Item.eq_of_written_append {first second : Item} {rest other : Text}
    (same : first.written ++ rest = second.written ++ other) : first = second ∧ rest = other := by
  cases first with
  | character sign =>
      cases second with
      | character mark =>
          obtain ⟨rfl, rfl⟩ := Sign.eq_of_written_append rfl same
          exact ⟨rfl, rfl⟩
      | reference inside named =>
          exact absurd same (Sign.written_append_ne (by decide) (by decide) sign rest _)
  | reference inside named =>
      cases second with
      | character mark =>
          exact absurd same.symm (Sign.written_append_ne (by decide) (by decide) mark other _)
      | reference others other_named =>
          simp only [Item.written, List.cons_append, List.append_assoc, List.nil_append,
            List.cons.injEq, true_and] at same
          have taken := congrArg Inside.take same
          rw [Inside.take_written, Inside.take_written] at taken
          cases taken
          exact ⟨rfl, rfl⟩

/-- A text is written by one sequence of items at most. -/
theorem written_injective : Function.Injective written := by
  intro first second same
  induction first generalizing second with
  | nil =>
      cases second with
      | nil => rfl
      | cons item items =>
          have lengths := congrArg List.length same
          have some_width := item.length_written_pos
          simp only [written, List.flatMap_nil, List.flatMap_cons, List.length_nil,
            List.length_append] at lengths
          omega
  | cons head others ih =>
      cases second with
      | nil =>
          have lengths := congrArg List.length same
          have some_width := head.length_written_pos
          simp only [written, List.flatMap_nil, List.flatMap_cons, List.length_nil,
            List.length_append] at lengths
          omega
      | cons item items =>
          obtain ⟨rfl, behind⟩ := Item.eq_of_written_append same
          rw [ih behind]

/-! ### What is read -/

/-- What an item makes of the segments behind it. -/
def Item.before : Item → List Segment → List Segment
  | .character sign, segments => Segment.joinLiteral [sign.char] segments
  | .reference inside _, segments =>
      .reference ⟨Text.strip inside.target.name, inside.target.argument⟩ :: segments

/-- The meaning of items is built from the last one. -/
theorem meaning_eq_foldr (items : List Item) : meaning items = items.foldr Item.before [] := by
  induction items with
  | nil => rfl
  | cons item others ih =>
      rw [List.foldr_cons, ← ih, meaning, List.map_cons]
      cases item with
      | character sign => exact normal_cons_literal [sign.char] _
      | reference inside named => exact normal_cons_reference inside.target _

/-- Inside a reference, signs only extend the part that is being read. -/
theorem scan_signs_inside (position start : Nat) (name : Text) (argument : Option Text)
    {special : CodePoint → Bool} (same : Mode.special (.inside start name argument) = special)
    (signs : List (Sign special)) (rest : Text) :
    scan position (.inside start name argument) (writtenSigns signs ++ rest) =
      scan (position + (writtenSigns signs).length)
        ((Mode.inside start name argument).extendBy (unescaped signs)) rest := by
  rw [scan_signs position same]
  exact congrFun Except.map_id _

/-- The inside of a reference is read up to whatever stands behind it. -/
theorem scan_inside (position start : Nat) (inside : Inside) (rest : Text) :
    scan position (.inside start [] none) (inside.written ++ rest) =
      scan (position + inside.written.length)
        (.inside start inside.target.name.reverse (inside.target.argument.map List.reverse))
        rest := by
  obtain ⟨name, argument⟩ := inside
  have in_name : Mode.special (.inside start [] none) = isSpecialInName := rfl
  have named (tail : Text) := scan_signs_inside position start [] none in_name name tail
  simp only [Mode.extendBy_name, List.append_nil] at named
  cases argument with
  | none =>
      rw [Inside.written, Inside.writtenArgument, List.append_nil]
      exact named rest
  | some signs =>
      have in_argument :
          Mode.special (.inside start (unescaped name).reverse (some [])) = isSpecial := rfl
      have argued (behind_name : Nat) :=
        scan_signs_inside behind_name start (unescaped name).reverse (some []) in_argument signs
          rest
      simp only [Mode.extendBy_argument, List.append_nil] at argued
      dsimp only [Inside.written, Inside.target, Inside.writtenArgument]
      rw [List.append_assoc, List.cons_append, named, scan_colon, argued, List.length_append,
        List.length_cons]
      congr 1
      omega

/-- A reference is read up to what stands behind its inside. -/
theorem scan_open_inside (position : Nat) (inside : Inside) (rest : Text) :
    scan position .outside (.scalar '{' :: (inside.written ++ rest)) =
      scan (position + (inside.written.length + 1))
        (.inside position inside.target.name.reverse (inside.target.argument.map List.reverse))
        rest := by
  rw [scan_open, scan_inside]
  congr 1
  omega

/-- An item is read in front of what stands behind it. -/
theorem scan_item (position : Nat) (item : Item) (rest : Text) :
    scan position .outside (item.written ++ rest) =
      (scan (position + item.written.length) .outside rest).map item.before := by
  cases item with
  | character sign =>
      have plainly : Mode.outside.special = isSpecial := rfl
      exact scan_sign position plainly sign rest
  | reference inside named =>
      have unreversed : (inside.target.argument.map List.reverse).map List.reverse =
          inside.target.argument := by
        rw [Option.map_map]
        exact (Option.map_congr fun text _ => List.reverse_reverse text).trans Option.map_id'
      have width : position + (inside.written.length + 1) + 1 =
          position + (Item.reference inside named).written.length := by
        simp only [Item.written, List.length_cons, List.length_append, List.length_nil]
        omega
      rw [← width, Item.written, List.cons_append, List.append_assoc, List.singleton_append,
        scan_open_inside, scan_close, List.reverse_reverse, if_neg named, unreversed]
      rfl

/-- Items are read in front of what stands behind them. -/
theorem scan_items (position : Nat) (items : List Item) (rest : Text) :
    scan position .outside (written items ++ rest) =
      (scan (position + (written items).length) .outside rest).map
        fun segments => items.foldr Item.before segments := by
  induction items generalizing position with
  | nil => exact (congrFun Except.map_id _).symm
  | cons item others ih =>
      rw [written, List.flatMap_cons, ← written, List.append_assoc, scan_item, ih, map_map_result,
        List.length_append, Nat.add_assoc]
      rfl

/-- A flaw is found where it lies. -/
theorem scan_flaw {error : SyntaxError} {rest : Text} (flaw : Flaw error rest) (position : Nat) :
    scan position .outside rest = .error ⟨error.fault, position + error.position⟩ := by
  cases flaw with
  | escape => rfl
  | close rest =>
      rw [scan.eq_def]
      rfl
  | escapeInside inside => exact scan_open_inside position inside ['\\']
  | openInside inside rest =>
      rw [scan_open_inside, scan.eq_def]
      rfl
  | unclosed inside =>
      have read := scan_open_inside position inside []
      rw [List.append_nil] at read
      exact read
  | unnamed inside blank rest =>
      rw [scan_open_inside, scan_close, List.reverse_reverse, if_pos blank]
      rfl

/-- What items write is read as what they mean. -/
theorem parse_written (items : List Item) : parse (written items) = .ok ⟨meaning items⟩ := by
  have read := scan_items 0 items []
  rw [List.append_nil] at read
  rw [parse, read, meaning_eq_foldr]
  rfl

/-- Items with a flaw behind them are refused for the flaw. -/
theorem parse_flawed (items : List Item) {flaw : SyntaxError} {rest : Text}
    (found : Flaw flaw rest) :
    parse (written items ++ rest) =
      .error ⟨flaw.fault, (written items).length + flaw.position⟩ := by
  rw [parse, scan_items, scan_flaw found, Nat.zero_add]
  rfl

/-- Reading accepts exactly what items write, as what they mean. -/
theorem parse_eq_ok_iff {text : Text} {template : Template} :
    parse text = .ok template ↔
      ∃ items, written items = text ∧ meaning items = template.segments := by
  constructor
  · intro accepted
    obtain ⟨items, rest, rfl, done | ⟨flaw, found⟩⟩ := exists_items text
    · rw [done, List.append_nil, parse_written] at accepted
      cases accepted
      exact ⟨items, by rw [done, List.append_nil], rfl⟩
    · rw [parse_flawed items found] at accepted
      cases accepted
  · rintro ⟨items, rfl, same⟩
    rw [parse_written, same]

/-- Reading refuses exactly items with a flaw behind them, for that flaw. -/
theorem parse_eq_error_iff {text : Text} {error : SyntaxError} :
    parse text = .error error ↔
      ∃ items flaw rest, text = written items ++ rest ∧ Flaw flaw rest ∧
        error = ⟨flaw.fault, (written items).length + flaw.position⟩ := by
  constructor
  · intro refused
    obtain ⟨items, rest, rfl, done | ⟨flaw, found⟩⟩ := exists_items text
    · rw [done, List.append_nil, parse_written] at refused
      cases refused
    · rw [parse_flawed items found] at refused
      exact ⟨items, flaw, rest, rfl, found, (Except.error.inj refused).symm⟩
  · rintro ⟨items, flaw, rest, rfl, found, rfl⟩
    exact parse_flawed items found

/-! ### Where errors lie -/

/-- A text that is read as a template. -/
def Accepted (text : Text) : Prop :=
  ∃ template, read text = .ok template

/-- What stands where an error lies, and whether what comes before it is a template. -/
def Located (text : Text) (error : SyntaxError) : Prop :=
  match error.fault with
  | .danglingEscape => text[error.position]? = some (.scalar '\\') ∧ error.position + 1 = text.length
  | .unmatchedClose => text[error.position]? = some (.scalar '}') ∧ Accepted (text.take error.position)
  | .nestedOpen => text[error.position]? = some (.scalar '{')
  | .unterminated => text[error.position]? = some (.scalar '{') ∧ Accepted (text.take error.position)
  | .emptyName => text[error.position]? = some (.scalar '{') ∧ Accepted (text.take error.position)

theorem read_eq_ok_iff_parse {text : Text} {template : Template} :
    read text = .ok template ↔ parse text = .ok template := by
  rw [read]
  cases parse text with
  | error found =>
      constructor
      · rintro ⟨⟩
      · rintro ⟨⟩
  | ok accepted =>
      constructor
      · rintro ⟨⟩
        rfl
      · rintro ⟨⟩
        rfl

theorem read_eq_error_iff_parse {text : Text} {rejection : Rejection} :
    read text = .error rejection ↔ rejection.text = text ∧ parse text = .error rejection.error := by
  obtain ⟨held, error⟩ := rejection
  rw [read]
  cases parse text with
  | error found =>
      constructor
      · rintro ⟨⟩
        exact ⟨rfl, rfl⟩
      · rintro ⟨rfl, ⟨⟩⟩
        rfl
  | ok accepted =>
      constructor
      · rintro ⟨⟩
      · rintro ⟨_, ⟨⟩⟩

/-- What items write is accepted. -/
theorem accepted_written (items : List Item) : Accepted (written items) :=
  ⟨_, read_eq_ok_iff_parse.2 (parse_written items)⟩

/-- A flaw behind items lies where reading says. -/
theorem located_flaw (items : List Item) {flaw : SyntaxError} {rest : Text}
    (found : Flaw flaw rest) :
    Located (written items ++ rest) ⟨flaw.fault, (written items).length + flaw.position⟩ := by
  have start {c : CodePoint} {more : Text} : (written items ++ c :: more)[(written items).length]? =
      some c := by simp
  have before {more : Text} :
      Accepted ((written items ++ more).take (written items).length) := by
    rw [List.take_left]
    exact accepted_written items
  have within {c : CodePoint} {inside more : Text} :
      (written items ++ .scalar '{' :: (inside ++ c :: more))[
        (written items).length + (inside.length + 1)]? = some c := by
    simp
  cases found with
  | escape => exact ⟨start, by simp⟩
  | close rest => exact ⟨start, before⟩
  | escapeInside inside =>
      refine ⟨within, ?_⟩
      simp only [List.length_append, List.length_cons, List.length_nil]
      omega
  | openInside inside rest => exact within
  | unclosed inside => exact ⟨start, before⟩
  | unnamed inside blank rest => exact ⟨start, before⟩

/-- Templates are read by their grammar. A text is accepted exactly if items write it, which are
then the only ones, and as what they mean; any other text is handed back with an error that lies in
it, at the character that its fault is about. -/
theorem reads_exactly_grammar :
    Function.Injective written ∧
      ∀ text,
        (∀ template, read text = .ok template ↔
          ∃ items, written items = text ∧ meaning items = template.segments) ∧
        ∀ rejection, read text = .error rejection →
          rejection.text = text ∧ rejection.error.position < text.length ∧
            Located text rejection.error := by
  refine ⟨written_injective, fun text => ⟨fun template => ?_, fun rejection refused => ?_⟩⟩
  · exact read_eq_ok_iff_parse.trans parse_eq_ok_iff
  · obtain ⟨same, failed⟩ := read_eq_error_iff_parse.1 refused
    refine ⟨same, position_lt_length failed, ?_⟩
    obtain ⟨items, flaw, rest, rfl, found, error⟩ := parse_eq_error_iff.1 failed
    rw [error]
    exact located_flaw items found

/-- An escape in an open reference is refused where it stands. -/
theorem reads_exactly_grammar_dangling :
    read ['a', '{', 'b', '\\'] = .error ⟨['a', '{', 'b', '\\'], .danglingEscape, 3⟩ ∧
      Located ['a', '{', 'b', '\\'] ⟨.danglingEscape, 3⟩ :=
  ⟨rfl, ((reads_exactly_grammar.2 _).2 ⟨['a', '{', 'b', '\\'], .danglingEscape, 3⟩ rfl).2.2⟩

end RecordingName.Template
