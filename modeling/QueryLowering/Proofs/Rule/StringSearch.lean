import QueryLowering.Proofs.Rule.BuiltIn
import QueryLowering.Proofs.Sql.Pattern

/-!
# Searches for texts

A search for a constant text becomes a match with a pattern, unless the text has
a wildcard. Without wildcards, every character of the text stands for itself,
and the pattern means what the search means. The exception is the backslash,
which Postgres reads as an escape: there the pattern is about a shorter text,
and some value tells the two apart.
-/

namespace QueryLowering
namespace Rule

open Sql.Piece

/-- What a search for a text, at the start, at the end or anywhere, finds out of
a value. -/
def Finds (methodName : String) (text value : List Char) : Prop :=
  match methodName with
  | "starts_with" => text <+: value
  | "ends_with" => text <:+ value
  | "contains" => text <:+: value
  | _ => False

/-- The text occurs in a value with nothing before it, or after it, where that
is not open. -/
def Occurs (openBefore openAfter : Bool) (text value : List Char) : Prop :=
  ∃ before after, before ++ (text ++ after) = value ∧
    (before = [] ∨ openBefore = true) ∧ (after = [] ∨ openAfter = true)

/-- The wildcard for any text, where a place is open. -/
def openingText (isOpen : Bool) : List Char :=
  if isOpen then ['%'] else []

/-- A pattern is the text between places that are open, and the search is for
occurrences between such places. -/
theorem exists_openings_of_likePattern?
    {methodName text pattern : String}
    (known : likePattern? methodName text = some pattern) :
    ∃ openBefore openAfter,
      pattern.toList =
        openingText openBefore ++ (text.toList ++ openingText openAfter) ∧
      ∀ value, Finds methodName text.toList value ↔
        Occurs openBefore openAfter text.toList value := by
  unfold likePattern? at known
  split at known
  · obtain rfl := Option.some.inj known
    refine ⟨false, true, by simp [openingText], fun value => ?_⟩
    simp [Finds, Occurs, List.IsPrefix]
  · obtain rfl := Option.some.inj known
    refine ⟨true, false, by simp [openingText], fun value => ?_⟩
    simp [Finds, Occurs, List.IsSuffix]
  · obtain rfl := Option.some.inj known
    refine ⟨true, true, by simp [openingText], fun value => ?_⟩
    simp [Finds, Occurs, List.IsInfix]
  · cases known

theorem length_le_of_occurs
    {openBefore openAfter : Bool}
    {text value : List Char}
    (occurs : Occurs openBefore openAfter text value) :
    text.length ≤ value.length := by
  obtain ⟨before, after, rfl, _⟩ := occurs
  simp only [List.length_append]
  omega

/-- A text occurs in a value that is no longer only if it is the value. -/
theorem eq_of_occurs
    {openBefore openAfter : Bool}
    {text value : List Char}
    (occurs : Occurs openBefore openAfter text value)
    (noLonger : value.length ≤ text.length) :
    text = value := by
  obtain ⟨before, after, rfl, _⟩ := occurs
  simp only [List.length_append] at noLonger
  obtain rfl : before = [] := List.length_eq_zero_iff.1 (by omega)
  obtain rfl : after = [] := List.length_eq_zero_iff.1 (by omega)
  simp

/-- A text occurs in itself. -/
theorem occurs_self (openBefore openAfter : Bool) (text : List Char) :
    Occurs openBefore openAfter text text :=
  ⟨[], [], by simp, .inl rfl, .inl rfl⟩

/-- A character that is neither a wildcard nor the escape of the dialect stands
for itself. -/
theorem ofPattern?_plain_cons
    {dialect : Dialect}
    {character : Char}
    (notWild : isWildcard character = false)
    (notEscape : dialect = .postgres → character ≠ '\\')
    (rest : List Char) :
    ofPattern? dialect .plain (character :: rest) =
      (ofPattern? dialect .plain rest).map (.literal character :: ·) := by
  simp only [isWildcard, Bool.or_eq_false_iff, beq_eq_false_iff_ne] at notWild
  obtain ⟨⟨notAny, notOne⟩, notBracket⟩ := notWild
  rw [ofPattern?, if_neg notAny, if_neg notOne,
    if_neg fun escape => notEscape escape.1 escape.2,
    if_neg fun bracket => notBracket bracket.2]

/-- Without wildcards and escapes, a text is read as itself. -/
theorem readsTo_self
    {dialect : Dialect}
    {text : List Char}
    (notWild : ∀ character, character ∈ text → isWildcard character = false)
    (notEscape : dialect = .postgres → '\\' ∉ text) :
    ReadsTo dialect .plain text text .plain := by
  induction text with
  | nil => exact .nil dialect .plain
  | cons character rest inductionHypothesis =>
      obtain ⟨firstNotWild, restNotWild⟩ := List.forall_mem_cons.1 notWild
      refine .cons (ofPattern?_plain_cons firstNotWild ?_)
        (inductionHypothesis restNotWild ?_)
      · rintro isPostgres rfl
        exact notEscape isPostgres (List.mem_cons_self)
      · exact fun isPostgres inRest =>
          notEscape isPostgres (List.mem_cons_of_mem _ inRest)

/-- What is left of a text when each backslash that escapes the next character
is dropped, and one at the end as well. -/
def unescape : List Char → List Char
  | [] => []
  | [character] => if character = '\\' then [] else [character]
  | first :: second :: rest =>
      if first = '\\' then second :: unescape rest
      else first :: unescape (second :: rest)

theorem length_unescape_le (text : List Char) :
    (unescape text).length ≤ text.length := by
  induction text using unescape.induct with
  | case1 => simp [unescape]
  | case2 => simp [unescape]
  | case3 character notEscape => simp [unescape, notEscape]
  | case4 second rest inductionHypothesis =>
      simp only [unescape, if_true, List.length_cons]
      omega
  | case5 first second rest notEscape inductionHypothesis =>
      simpa [unescape, notEscape] using inductionHypothesis

/-- A text with a backslash gets shorter. -/
theorem length_unescape_lt
    {text : List Char}
    (hasEscape : '\\' ∈ text) :
    (unescape text).length < text.length := by
  induction text using unescape.induct with
  | case1 => cases hasEscape
  | case2 => simp [unescape]
  | case3 character notEscape =>
      exact absurd (List.mem_singleton.1 hasEscape).symm notEscape
  | case4 second rest inductionHypothesis =>
      have shorter := length_unescape_le rest
      simp only [unescape, if_true, List.length_cons]
      omega
  | case5 first second rest notEscape inductionHypothesis =>
      have inRest := (List.mem_cons.1 hasEscape).resolve_left
        fun isFirst => notEscape isFirst.symm
      simpa [unescape, notEscape] using inductionHypothesis inRest

/-- Postgres reads a text without wildcards as what is left of it without
escapes. It waits for a character at the end only if the text ends with a
backslash. -/
theorem readsTo_unescape
    {text : List Char}
    (notWild : ∀ character, character ∈ text → isWildcard character = false) :
    ReadsTo .postgres .plain text (unescape text) .plain ∨
      ReadsTo .postgres .plain text (unescape text) .escaped ∧
        text.getLast? = some '\\' := by
  induction text using unescape.induct with
  | case1 => exact .inl (.nil _ _)
  | case2 => exact .inr ⟨.escape (.nil _ _), rfl⟩
  | case3 character notEscape =>
      left
      rw [unescape, if_neg notEscape]
      exact .cons
        (ofPattern?_plain_cons (notWild character (by simp)) fun _ => notEscape)
        (.nil _ _)
  | case4 second rest inductionHypothesis =>
      refine (inductionHypothesis ?_).imp
        (fun readsTo => .escape (.cons (fun _ => rfl) readsTo)) ?_
      · exact fun character inRest => notWild character (by simp [inRest])
      · rintro ⟨readsTo, endsEscaped⟩
        exact ⟨.escape (.cons (fun _ => rfl) readsTo),
          by simp [List.getLast?_cons, endsEscaped]⟩
  | case5 first second rest notEscape inductionHypothesis =>
      have isLiteral : ∀ later, ofPattern? .postgres .plain (first :: later) =
          (ofPattern? .postgres .plain later).map (.literal first :: ·) :=
        ofPattern?_plain_cons (notWild first (by simp)) fun _ => notEscape
      rw [unescape, if_neg notEscape]
      refine (inductionHypothesis ?_).imp (.cons isLiteral) ?_
      · exact fun character inRest =>
          notWild character (List.mem_cons_of_mem _ inRest)
      · rintro ⟨readsTo, endsEscaped⟩
        exact ⟨.cons isLiteral readsTo, by simpa using endsEscaped⟩

/-- The wildcards of open places are read as any text. -/
theorem ofPattern?_openingText
    (dialect : Dialect)
    (isOpen : Bool)
    (rest : List Char) :
    ofPattern? dialect .plain (openingText isOpen ++ rest) =
      (ofPattern? dialect .plain rest).map (opening isOpen ++ ·) := by
  cases isOpen with
  | true => simp [openingText, opening, ofPattern?]
  | false => simp [openingText, opening]

/-- A pattern whose text is read to some characters, with the reader back to
plain reading, is about the occurrences of these characters. -/
theorem like_iff_occurs
    {dialect : Dialect}
    {openBefore openAfter : Bool}
    {text characters : List Char}
    {pattern : String}
    (written : pattern.toList =
      openingText openBefore ++ (text ++ openingText openAfter))
    (readsTo : ReadsTo dialect .plain text characters .plain)
    (value : String) :
    dialect.like value pattern = true ↔
      Occurs openBefore openAfter characters value.toList := by
  have atEnd := ofPattern?_openingText dialect openAfter []
  rw [List.append_nil, ofPattern?, Option.map_some, List.append_nil] at atEnd
  have read : ofPattern? dialect .plain pattern.toList =
      some (opening openBefore ++
        (characters.map .literal ++ opening openAfter)) := by
    rw [written, ofPattern?_openingText, readsTo, atEnd]
    rfl
  rw [Dialect.like, read]
  exact matchesAll_between openBefore openAfter characters value.toList

/-- A pattern whose text ends with an escape takes the wildcard after it for a
character, or ends too early. -/
theorem exists_like_ne_of_escaped
    {openBefore openAfter : Bool}
    {text characters : List Char}
    {pattern : String}
    (written : pattern.toList =
      openingText openBefore ++ (text ++ openingText openAfter))
    (readsTo : ReadsTo .postgres .plain text characters .escaped)
    (shorter : characters.length < text.length)
    (endsEscaped : text.getLast? = some '\\') :
    ∃ value : String, ¬ (Dialect.postgres.like value pattern = true ↔
      Occurs openBefore openAfter text value.toList) := by
  cases openAfter with
  | false =>
      have read : ofPattern? .postgres .plain pattern.toList = none := by
        rw [written, ofPattern?_openingText, readsTo]
        rfl
      refine ⟨String.ofList text, ?_⟩
      rw [Dialect.like, read, String.toList_ofList]
      simpa using occurs_self openBefore false text
  | true =>
      have read : ofPattern? .postgres .plain pattern.toList =
          some (opening openBefore ++
            (characters.map .literal ++ [.literal '%'])) := by
        rw [written, ofPattern?_openingText, readsTo]
        rfl
      refine ⟨String.ofList (characters ++ ['%']), ?_⟩
      have isLike :
          Dialect.postgres.like (String.ofList (characters ++ ['%'])) pattern =
            true := by
        rw [Dialect.like, read, String.toList_ofList]
        refine (matchesAll_opening _ _ _).2 ⟨[], _, rfl, .inl rfl, ?_⟩
        exact (matchesAll_literals _ _ _).2 ⟨['%'], rfl, by decide⟩
      rw [isLike, String.toList_ofList]
      intro same
      have isValue :=
        eq_of_occurs (same.1 rfl) (by simpa [Nat.succ_le_iff] using shorter)
      rw [isValue] at endsEscaped
      simp at endsEscaped

/-- In Postgres, a pattern with a backslash in its text does not mean what the
search means. -/
theorem exists_like_ne
    {openBefore openAfter : Bool}
    {text : List Char}
    {pattern : String}
    (written : pattern.toList =
      openingText openBefore ++ (text ++ openingText openAfter))
    (notWild : ∀ character, character ∈ text → isWildcard character = false)
    (hasEscape : '\\' ∈ text) :
    ∃ value : String, ¬ (Dialect.postgres.like value pattern = true ↔
      Occurs openBefore openAfter text value.toList) := by
  have shorter := length_unescape_lt hasEscape
  rcases readsTo_unescape notWild with readsTo | ⟨readsTo, endsEscaped⟩
  · -- what is left of the text matches, and is too short for the text to occur
    -- in it
    refine ⟨String.ofList (unescape text), fun same => ?_⟩
    rw [like_iff_occurs written readsTo, String.toList_ofList] at same
    have tooLong :=
      length_le_of_occurs (same.1 (occurs_self openBefore openAfter _))
    omega
  · exact exists_like_ne_of_escaped written readsTo shorter endsEscaped

/-- A search for a text becomes a match of its target with a pattern, under the
canonical condition of LIKE. In every dialect, the values that are like the
pattern are those in which the search finds the text; in Postgres, just if there
is no backslash in the text. -/
theorem stringSearch_like_iff_finds
    (use : CallUse)
    (node : Sql.Node)
    (matched : stringSearch use = some node) :
    ∃ target argument text pattern,
      use.targetSql? = some target ∧
      use.onlyArgumentSql? = some argument ∧
      argument.literal? = some (.string text) ∧
      node = .combine ⟨.boolean, none, true⟩ .like target
        (.leaf ⟨.string, none, false⟩ (.constant (.string pattern))) ∧
      ∀ dialect : Dialect,
        (∀ value : String, dialect.like value pattern = true ↔
            Finds use.method.name text.toList value.toList) ↔
          (dialect = .postgres → '\\' ∉ text.toList) := by
  obtain ⟨_, _, target, text, argument, pattern, targetKnown, argumentKnown,
      isText, noWildcard, patternKnown, rfl⟩ :=
    (stringSearch_eq_some_iff use node).1 matched
  obtain ⟨openBefore, openAfter, written, finds⟩ :=
    exists_openings_of_likePattern? patternKnown
  have notWild : ∀ character, character ∈ text.toList →
      isWildcard character = false := by
    simpa using noWildcard
  refine ⟨target, argument, text, pattern, targetKnown, argumentKnown, isText,
    rfl, ?_⟩
  intro dialect
  simp only [finds]
  constructor
  · rintro same rfl hasEscape
    obtain ⟨value, differs⟩ := exists_like_ne written notWild hasEscape
    exact differs (same value)
  · intro notEscape value
    exact like_iff_occurs written (readsTo_self notWild notEscape) value

/-- A search for the middle of a text, with a target and a text that are
constants. -/
theorem stringSearch_like_iff_finds_middle :
    let ofText : Sql.Header := ⟨.string, none, false⟩
    let target := Sql.Node.leaf ofText (.constant (.string "anatomy"))
    let use : CallUse :=
      ⟨some (.sql target), ⟨.instanceMethod, .string, "contains", .boolean⟩,
        [.sql (.leaf ofText (.constant (.string "tom")))]⟩
    let node := Sql.Node.combine ⟨.boolean, none, true⟩ .like target
      (.leaf ofText (.constant (.string "%tom%")))
    stringSearch use = some node ∧
      ∀ value : String, Dialect.sqlServer.like value "%tom%" = true ↔
        "tom".toList <:+: value.toList := by
  intro ofText target use node
  have matched : stringSearch use = some node := rfl
  refine ⟨matched, ?_⟩
  obtain ⟨_, argument, text, pattern, _, argumentKnown, isText, isNode,
      means⟩ :=
    stringSearch_like_iff_finds use node matched
  obtain rfl := Option.some.inj argumentKnown
  obtain rfl := Literal.string.inj (Option.some.inj isText)
  obtain ⟨_, rfl⟩ : _ ∧ "%tom%" = pattern := by
    simpa [node, ofText] using isNode
  exact (means .sqlServer).2 (by decide)

/-- Postgres takes the backslash of a searched text for an escape: a value that
does not start with the text is like the pattern, and one that starts with it is
not. -/
theorem stringSearch_backslash :
    let ofText : Sql.Header := ⟨.string, none, false⟩
    let path := Sql.Node.leaf ofText (.parameter "path")
    let use : CallUse :=
      ⟨some (.sql path), ⟨.instanceMethod, .string, "starts_with", .boolean⟩,
        [.sql (.leaf ofText (.constant (.string "C:\\new")))]⟩
    stringSearch use = some (.combine ⟨.boolean, none, true⟩ .like path
        (.leaf ofText (.constant (.string "C:\\new%")))) ∧
      Dialect.postgres.like "C:new.txt" "C:\\new%" = true ∧
      ¬ Finds "starts_with" "C:\\new".toList "C:new.txt".toList ∧
      Dialect.postgres.like "C:\\new.txt" "C:\\new%" = false ∧
      Finds "starts_with" "C:\\new".toList "C:\\new.txt".toList := by
  intro ofText path use
  refine ⟨rfl, by decide, ?_, by decide, ?_⟩
  · show ¬ "C:\\new".toList <+: "C:new.txt".toList
    decide
  · show "C:\\new".toList <+: "C:\\new.txt".toList
    decide

end Rule
end QueryLowering
