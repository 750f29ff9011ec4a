import Cratewright.Template.Segment
import Mathlib.Data.List.Chain
import Mathlib.Data.List.Infix
import Mathlib.Data.List.TakeWhile

/-!
# Template lines by longest match

Six kinds of tokens make up a template line, and all but one begin with `#`. `Token.Matches` says which texts are tokens
of a kind, and `Longest` that a token is the longest that stands at the start of a line. Segments are canonical if they
can stand next to each other without being read as something else. Main statement: a line is read exactly when every
placeholder that opens a token on it has a name and a closing brace, and it is read as the one canonical list of
segments that is spelled like it.
-/

namespace Cratewright.Template

open Text (Line)

/-- The kinds of tokens of a template line. -/
inductive Token
  | hash
  | positional
  | named
  | unterminated
  | pound
  | literal

/-- Whether a text is a token of a kind. -/
def Token.Matches : Token → Line → Prop
  | .hash, text => text = ['#', '#']
  | .positional, text => text = ['#', 'T']
  | .named, text => ∃ name, text = '#' :: '\x7b' :: (name ++ ['\x7d']) ∧ '\x7d' ∉ name
  | .unterminated, text => ∃ name, text = '#' :: '\x7b' :: name ∧ '\x7d' ∉ name
  | .pound, text => text = ['#']
  | .literal, text => text ≠ [] ∧ '#' ∉ text

/-- Whether a token stands at the start of a line, before a rest, and no longer one does. -/
structure Longest (token : Token) (text rest : Line) : Prop where
  token : token.Matches text
  longest : ∀ (other : Token) (longer : Line), other.Matches longer → longer <+: text ++ rest →
    longer.length ≤ text.length

/-- Whether a token starts at a place of a line, given by what follows it, if the line is read from left to right by
longest match. -/
inductive TokenAt : Line → Line → Prop
  | first {line} : TokenAt line line
  | next {token text rest place} (longest : Longest token text rest) (later : TokenAt rest place) :
      TokenAt (text ++ rest) place

/-- A token takes at least one character. -/
theorem Token.Matches.ne_nil {token : Token} {text : Line} (found : token.Matches text) : text ≠ [] := by
  cases token <;> simp only [Token.Matches] at found
  · simp [found]
  · simp [found]
  · obtain ⟨name, rfl, -⟩ := found
    simp
  · obtain ⟨name, rfl, -⟩ := found
    simp
  · simp [found]
  · exact found.1

/-- Of two tokens that are the longest at the start of one line neither is longer. -/
theorem Longest.unique {token other : Token} {text rest found remaining : Line} (longest : Longest token text rest)
    (longestOther : Longest other found remaining) (same : text ++ rest = found ++ remaining) :
    text = found ∧ rest = remaining := by
  have below := longest.longest other found longestOther.token (same ▸ List.prefix_append found remaining)
  have above := longestOther.longest token text longest.token (same ▸ List.prefix_append text rest)
  exact List.append_inj same (Nat.le_antisymm above below)

/-- After the longest token the places of a line are those of the rest. -/
theorem tokenAt_append_iff {token : Token} {text rest place : Line} (longest : Longest token text rest) :
    TokenAt (text ++ rest) place ↔ place = text ++ rest ∨ TokenAt rest place := by
  constructor
  · generalize whole : text ++ rest = line
    intro reached
    cases reached with
    | first => exact .inl rfl
    | next longestOther later =>
      obtain ⟨-, rfl⟩ := longest.unique longestOther whole
      exact .inr later
  · rintro (rfl | later)
    · exact .first
    · exact .next longest later

/-- In an empty line a token could start at its end only. -/
theorem tokenAt_nil_iff {place : Line} : TokenAt [] place ↔ place = [] := by
  constructor
  · generalize whole : ([] : Line) = line
    intro reached
    cases reached with
    | first => rfl
    | next longest =>
      exact absurd (List.append_eq_nil_iff.mp whole.symm).1 longest.token.ne_nil
  · rintro rfl
    exact .first

/-- Whether what follows an opening brace closes the placeholder and gives it a name. -/
def Closed (rest : Line) : Prop := '\x7d' ∈ rest ∧ rest.head? ≠ some '\x7d'

/-- Whether a line begins with a segment and goes on with a rest. -/
inductive Begins : Line → Segment → Line → Prop
  | hash {rest} : Begins ('#' :: '#' :: rest) .hash rest
  | positional {rest} : Begins ('#' :: 'T' :: rest) .positional rest
  | named {name rest} (nonempty : name ≠ []) (unclosed : '\x7d' ∉ name) :
      Begins ('#' :: '\x7b' :: (name ++ '\x7d' :: rest)) (.named name) rest
  | pound {rest} (plain : ∀ c ∈ rest.head?, c ≠ '#' ∧ c ≠ 'T' ∧ c ≠ '\x7b') :
      Begins ('#' :: rest) (.literal ['#']) rest
  | run {text rest} (nonempty : text ≠ []) (plain : '#' ∉ text) (ends : ∀ c ∈ rest.head?, c = '#') :
      Begins (text ++ rest) (.literal text) rest

variable {whole : String} {line rest : Line} {part : Segment} {parts : List Segment}

/-- A name is closed by the first brace behind it. -/
theorem closing?_append {name : Line} (unclosed : '\x7d' ∉ name) (rest : Line) :
    closing? (name ++ '\x7d' :: rest) = some (name, rest) := by
  induction name with
  | nil => rw [List.nil_append, closing?, if_pos rfl]
  | cons c name ih =>
    rw [List.mem_cons, not_or] at unclosed
    rw [List.cons_append, closing?, if_neg (Ne.symm unclosed.1), ih unclosed.2]
    rfl

/-- A line without a closing brace, and no other, closes no name. -/
theorem closing?_eq_none_iff : closing? line = none ↔ '\x7d' ∉ line := by
  induction line with
  | nil => simp [closing?]
  | cons c rest ih =>
    rw [closing?]
    by_cases brace : c = '\x7d'
    · simp [brace]
    · simp [brace, ih, Ne.symm brace]

/-- Reading a line that begins with a segment goes on with the rest. -/
theorem Begins.scan (begins : Begins line part rest) : scan whole line = (scan whole rest).map (part :: ·) := by
  cases begins with
  | hash =>
    rw [Template.scan]
    cases Template.scan whole rest <;> rfl
  | positional =>
    rw [Template.scan]
    cases Template.scan whole rest <;> rfl
  | @named name _ nonempty unclosed =>
    obtain ⟨first, others, rfl⟩ := List.exists_cons_of_ne_nil nonempty
    rw [Template.scan]
    split
    · rename_i none
      rw [closing?_append unclosed] at none
      cases none
    · rename_i found
      rw [closing?_append unclosed] at found
      cases found
    · rename_i found
      rw [closing?_append unclosed] at found
      cases found
      cases Template.scan whole rest <;> rfl
  | pound plain =>
    rw [Template.scan]
    · cases Template.scan whole rest <;> rfl
    -- Every other reading of a number sign needs a character that does not follow.
    · rintro other rfl
      exact (plain _ rfl).1 rfl
    · rintro other rfl
      exact (plain _ rfl).2.1 rfl
    · rintro other rfl
      exact (plain _ rfl).2.2 rfl
  | @run text _ nonempty plain ends =>
    obtain ⟨c, others, rfl⟩ := List.exists_cons_of_ne_nil nonempty
    rw [List.mem_cons, not_or] at plain
    have inside : ∀ other ∈ others, decide (other ≠ '#') = true := fun other mem =>
      decide_eq_true fun same => plain.2 (same ▸ mem)
    have cut : rest.takeWhile (· ≠ '#') = [] ∧ rest.dropWhile (· ≠ '#') = rest := by
      cases rest with
      | nil => exact ⟨rfl, rfl⟩
      | cons next remaining =>
        obtain rfl := ends next rfl
        exact ⟨rfl, rfl⟩
    rw [List.cons_append, Template.scan, List.takeWhile_append_of_pos inside, List.dropWhile_append_of_pos inside,
      cut.1, cut.2, List.append_nil]
    · cases Template.scan whole rest <;> rfl
    all_goals simp [Ne.symm plain.1]

/-- A placeholder is closed and has a name exactly when a name is found before its closing brace. -/
theorem closed_iff : Closed rest ↔ ∃ first name after, closing? rest = some (first :: name, after) := by
  constructor
  · rintro ⟨closes, named⟩
    cases found : closing? rest with
    | none => exact absurd closes (closing?_eq_none_iff.mp found)
    | some parts =>
      obtain ⟨_ | ⟨first, name⟩, after⟩ := parts
      · obtain ⟨rfl, -⟩ := eq_of_closing? found
        exact absurd rfl named
      · exact ⟨first, name, after, rfl⟩
  · rintro ⟨first, name, after, found⟩
    obtain ⟨rfl, unclosed⟩ := eq_of_closing? found
    refine ⟨by simp, ?_⟩
    rintro ⟨⟩
    exact unclosed List.mem_cons_self

/-- A placeholder that is not closed or has no name makes a line unreadable. -/
theorem scan_of_not_closed (whole : String) (broken : ¬ Closed rest) :
    ∃ fault, scan whole ('#' :: '\x7b' :: rest) = .error fault := by
  rw [scan]
  split
  · exact ⟨_, rfl⟩
  · exact ⟨_, rfl⟩
  · rename_i found
    exact absurd (closed_iff.mpr ⟨_, _, _, found⟩) broken

/-- A placeholder that is closed and has a name is a segment. -/
theorem begins_of_closed (closed : Closed rest) : ∃ part after, Begins ('#' :: '\x7b' :: rest) part after := by
  obtain ⟨first, name, after, found⟩ := closed_iff.mp closed
  obtain ⟨rfl, unclosed⟩ := eq_of_closing? found
  exact ⟨_, _, .named (List.cons_ne_nil _ _) unclosed⟩

/-- A line that does not begin with `#` begins with a run of text, which goes on to the next `#`. -/
theorem exists_run {c : Char} (plain : c ≠ '#') (rest : Line) : ∃ text after, c :: rest = text ++ after ∧
    text ≠ [] ∧ '#' ∉ text ∧ ∀ next ∈ after.head?, next = '#' := by
  refine ⟨c :: rest.takeWhile (· ≠ '#'), rest.dropWhile (· ≠ '#'), ?_, List.cons_ne_nil _ _, ?_, fun next found => ?_⟩
  · rw [List.cons_append, List.takeWhile_append_dropWhile]
  · rw [List.mem_cons, not_or]
    exact ⟨Ne.symm plain, fun mem => by simpa using List.mem_takeWhile_imp mem⟩
  · have stops := List.head?_dropWhile_not (fun c : Char => decide (c ≠ '#')) rest
    rw [Option.mem_def.mp found] at stops
    simpa using stops

/-- A line is empty, or it begins with a segment, or with a placeholder that is not closed or has no name. -/
theorem begins_cases (line : Line) :
    line = [] ∨ (∃ part rest, Begins line part rest) ∨ ∃ rest, line = '#' :: '\x7b' :: rest ∧ ¬ Closed rest := by
  match line with
  | [] => exact .inl rfl
  | c :: rest =>
    by_cases plain : c ≠ '#'
    · obtain ⟨text, after, cut, nonempty, inside, ends⟩ := exists_run plain rest
      rw [cut]
      exact .inr (.inl ⟨_, _, .run nonempty inside ends⟩)
    obtain rfl := not_not.mp plain
    by_cases pound : ∀ next ∈ rest.head?, next ≠ '#' ∧ next ≠ 'T' ∧ next ≠ '\x7b'
    · exact .inr (.inl ⟨_, _, .pound pound⟩)
    obtain ⟨next, found, special⟩ : ∃ next ∈ rest.head?, next = '#' ∨ next = 'T' ∨ next = '\x7b' := by
      simpa only [not_forall, exists_prop, not_and_or, not_not] using pound
    obtain ⟨others, rfl⟩ := List.head?_eq_some_iff.mp found
    rcases special with rfl | rfl | rfl
    · exact .inr (.inl ⟨_, _, .hash⟩)
    · exact .inr (.inl ⟨_, _, .positional⟩)
    · by_cases closed : Closed others
      · exact .inr (.inl (begins_of_closed closed))
      · exact .inr (.inr ⟨others, rfl, closed⟩)

/-- A line is read as a segment and others exactly if it begins with the segment and the rest is read as the others. -/
theorem scan_eq_ok_cons_iff :
    scan whole line = .ok (part :: parts) ↔ ∃ rest, Begins line part rest ∧ scan whole rest = .ok parts := by
  constructor
  · intro read
    rcases begins_cases line with rfl | ⟨first, rest, begins⟩ | ⟨rest, rfl, broken⟩
    · rw [scan] at read
      cases read
    · rw [begins.scan] at read
      cases onward : scan whole rest with
      | error fault =>
        rw [onward] at read
        cases read
      | ok others =>
        rw [onward] at read
        cases read
        exact ⟨rest, begins, onward⟩
    · obtain ⟨fault, error⟩ := scan_of_not_closed whole broken
      rw [error] at read
      cases read
  · rintro ⟨rest, begins, onward⟩
    rw [begins.scan, onward]
    rfl

/-- Only an empty line is read as no segments. -/
theorem scan_eq_ok_nil_iff : scan whole line = .ok [] ↔ line = [] := by
  constructor
  · intro read
    rcases begins_cases line with rfl | ⟨first, rest, begins⟩ | ⟨rest, rfl, broken⟩
    · rfl
    · rw [begins.scan] at read
      cases onward : scan whole rest <;> rw [onward] at read <;> cases read
    · obtain ⟨fault, error⟩ := scan_of_not_closed whole broken
      rw [error] at read
      cases read
  · rintro rfl
    rw [scan]

/-- Whether a segment by itself is one that a line can be read as. -/
def Segment.WellFormed : Segment → Prop
  | .literal text => text = ['#'] ∨ text ≠ [] ∧ '#' ∉ text
  | .named name => name ≠ [] ∧ '\x7d' ∉ name
  | _ => True

/-- Whether a segment is a run of text without `#`. -/
def Segment.IsRun : Segment → Prop
  | .literal text => text ≠ [] ∧ '#' ∉ text
  | _ => False

/-- Whether a segment can stand right before another: no run before a run, and a `#` that stands for itself only before
a run with which it does not make a placeholder. -/
structure Segment.MayPrecede (part next : Segment) : Prop where
  apart : part.IsRun → ¬ next.IsRun
  plain : part = .literal ['#'] → next.IsRun ∧ ∀ c ∈ next.spelling.head?, c ≠ 'T' ∧ c ≠ '\x7b'

/-- Whether segments are what some line is read as: each is well-formed and can stand before the one after it. -/
structure Canonical (parts : List Segment) : Prop where
  wellFormed : ∀ part ∈ parts, part.WellFormed
  apart : parts.IsChain Segment.MayPrecede

/-- No segments are canonical. -/
theorem canonical_nil : Canonical [] := ⟨nofun, .nil⟩

/-- Segments are canonical if each is well formed and may precede the next. -/
theorem canonical_cons_iff : Canonical (part :: parts) ↔
    part.WellFormed ∧ (∀ next ∈ parts.head?, part.MayPrecede next) ∧ Canonical parts := by
  constructor
  · rintro ⟨wellFormed, apart⟩
    obtain ⟨first, others⟩ := List.forall_mem_cons.mp wellFormed
    obtain ⟨before, later⟩ := List.isChain_cons.mp apart
    exact ⟨first, before, others, later⟩
  · rintro ⟨first, before, others, later⟩
    exact ⟨List.forall_mem_cons.mpr ⟨first, others⟩, List.isChain_cons.mpr ⟨before, later⟩⟩

/-- The line that segments are spelled as. -/
def spelling (parts : List Segment) : Line := parts.flatMap Segment.spelling

/-- A well-formed segment that is no run is spelled with a `#` first, and a run is not. -/
theorem Segment.WellFormed.head?_spelling (wellFormed : part.WellFormed) :
    ∃ c, part.spelling.head? = some c ∧ (part.IsRun ↔ c ≠ '#') := by
  cases part with
  | literal text =>
    rcases wellFormed with rfl | ⟨nonempty, plain⟩
    · exact ⟨'#', rfl, by simp [Segment.IsRun]⟩
    · obtain ⟨c, rest, rfl⟩ := List.exists_cons_of_ne_nil nonempty
      rw [List.mem_cons, not_or] at plain
      exact ⟨c, rfl, by simp [Segment.IsRun, plain, Ne.symm plain.1]⟩
  | hash => exact ⟨'#', rfl, by simp [Segment.IsRun]⟩
  | positional => exact ⟨'#', rfl, by simp [Segment.IsRun]⟩
  | named name => exact ⟨'#', rfl, by simp [Segment.IsRun]⟩

/-- What comes first in the spelling of segments is what comes first in that of the first of them. -/
theorem forall_head?_spelling_iff (canonical : Canonical parts) (property : Char → Prop) :
    (∀ c ∈ (spelling parts).head?, property c) ↔
      ∀ next ∈ parts.head?, ∃ c, next.spelling.head? = some c ∧ property c ∧ (next.IsRun ↔ c ≠ '#') := by
  cases parts with
  | nil => simp [spelling]
  | cons part rest =>
    obtain ⟨c, head, run⟩ := (canonical.wellFormed part List.mem_cons_self).head?_spelling
    simp [spelling, List.head?_append, head, run]

/-- A canonical list of segments is read off its spelling one by one. -/
theorem begins_spelling_iff (canonical : Canonical parts) :
    Begins line part (spelling parts) ↔
      line = part.spelling ++ spelling parts ∧ part.WellFormed ∧ ∀ next ∈ parts.head?, part.MayPrecede next := by
  have hashes := forall_head?_spelling_iff canonical (· = '#')
  have plain := forall_head?_spelling_iff canonical fun c => c ≠ '#' ∧ c ≠ 'T' ∧ c ≠ '\x7b'
  -- Of what follows only the first character matters, which the two equivalences speak of.
  generalize spelling parts = rest at *
  constructor
  · intro begins
    cases begins with
    | hash => exact ⟨rfl, trivial, fun _ _ => ⟨nofun, nofun⟩⟩
    | positional => exact ⟨rfl, trivial, fun _ _ => ⟨nofun, nofun⟩⟩
    | named nonempty unclosed => exact ⟨by simp [Segment.spelling], ⟨nonempty, unclosed⟩, fun _ _ => ⟨nofun, nofun⟩⟩
    | pound special =>
      refine ⟨rfl, .inl rfl, fun next found => ⟨fun run => absurd List.mem_cons_self run.2, fun _ => ?_⟩⟩
      obtain ⟨c, head, ⟨other, rest⟩, run⟩ := plain.mp special next found
      refine ⟨run.mpr other, ?_⟩
      rw [head]
      rintro _ ⟨⟩
      exact rest
    | run nonempty inside ends =>
      refine ⟨rfl, .inr ⟨nonempty, inside⟩, fun next found => ⟨fun _ run => ?_, fun same => ?_⟩⟩
      · obtain ⟨c, -, hash, runs⟩ := hashes.mp ends next found
        exact runs.mp run hash
      · cases same
        exact absurd List.mem_cons_self inside
  · rintro ⟨rfl, wellFormed, before⟩
    cases part with
    | hash => exact .hash
    | positional => exact .positional
    | named name => simpa [Segment.spelling] using (Begins.named wellFormed.1 wellFormed.2 : Begins _ _ rest)
    | literal text =>
      have heads : ∀ next ∈ parts.head?, ∃ c, next.spelling.head? = some c ∧ (next.IsRun ↔ c ≠ '#') :=
        fun next found => (canonical.wellFormed next (List.mem_of_mem_head? found)).head?_spelling
      rcases wellFormed with rfl | ⟨nonempty, inside⟩
      · refine .pound (plain.mpr fun next found => ?_)
        obtain ⟨c, head, run⟩ := heads next found
        obtain ⟨isRun, special⟩ := (before next found).plain rfl
        exact ⟨c, head, ⟨run.mp isRun, special c head⟩, run⟩
      · refine .run nonempty inside (hashes.mpr fun next found => ?_)
        obtain ⟨c, head, run⟩ := heads next found
        exact ⟨c, head, not_not.mp fun other => (before next found).apart ⟨nonempty, inside⟩ (run.mpr other), run⟩

/-- The canonical segments that are spelled like a line are those that it is read as. -/
theorem scan_eq_ok_iff : scan whole line = .ok parts ↔ Canonical parts ∧ spelling parts = line := by
  induction parts generalizing line with
  | nil =>
    rw [scan_eq_ok_nil_iff]
    exact ⟨fun empty => ⟨canonical_nil, empty.symm⟩, fun spelled => spelled.2.symm⟩
  | cons part rest ih =>
    rw [scan_eq_ok_cons_iff, canonical_cons_iff]
    constructor
    · rintro ⟨remaining, begins, onward⟩
      obtain ⟨canonical, rfl⟩ := ih.mp onward
      obtain ⟨rfl, wellFormed, before⟩ := (begins_spelling_iff canonical).mp begins
      exact ⟨⟨wellFormed, before, canonical⟩, rfl⟩
    · rintro ⟨⟨wellFormed, before, canonical⟩, rfl⟩
      exact ⟨_, (begins_spelling_iff canonical).mpr ⟨rfl, wellFormed, before⟩, ih.mpr ⟨canonical, rfl⟩⟩

/-- A text that stands before another and lacks a character is no longer than what precedes the character there. -/
theorem length_le_of_prefix {text before after : Line} {c : Char} (stands : text <+: before ++ c :: after)
    (absent : c ∉ text) : text.length ≤ before.length := by
  by_contra longer
  have through : before ++ [c] <+: before ++ c :: after := ⟨after, by simp⟩
  have inside : before ++ [c] <+: text := List.prefix_of_prefix_length_le through stands (by simp; omega)
  exact absent (inside.subset (by simp))

/-- Where a `#` stands, a token is this `#` alone or one of those that are told apart by the next character. -/
theorem Token.Matches.of_hash {token : Token} {text : Line} (found : token.Matches text)
    (stands : text <+: '#' :: rest) : text = ['#'] ∨ ∃ next tail, text = '#' :: next :: tail ∧ next :: tail <+: rest ∧
      (next = '#' ∧ tail = [] ∨ next = 'T' ∧ tail = [] ∨
        next = '\x7b' ∧ ∃ name, '\x7d' ∉ name ∧ (tail = name ∨ tail = name ++ ['\x7d'])) := by
  obtain ⟨first, tail, rfl⟩ := List.exists_cons_of_ne_nil found.ne_nil
  obtain ⟨rfl, onward⟩ := List.cons_prefix_cons.mp stands
  cases token with
  | hash =>
    cases found
    exact .inr ⟨_, _, rfl, onward, .inl ⟨rfl, rfl⟩⟩
  | positional =>
    cases found
    exact .inr ⟨_, _, rfl, onward, .inr (.inl ⟨rfl, rfl⟩)⟩
  | named =>
    obtain ⟨name, same, unclosed⟩ := found
    cases same
    exact .inr ⟨_, _, rfl, onward, .inr (.inr ⟨rfl, name, unclosed, .inr rfl⟩)⟩
  | unterminated =>
    obtain ⟨name, same, unclosed⟩ := found
    cases same
    exact .inr ⟨_, _, rfl, onward, .inr (.inr ⟨rfl, name, unclosed, .inl rfl⟩)⟩
  | pound =>
    cases found
    exact .inl rfl
  | literal => exact absurd List.mem_cons_self found.2

/-- A token that has a `#` begins with it. -/
theorem Token.Matches.head?_of_mem {token : Token} {text : Line} (found : token.Matches text) (mem : '#' ∈ text) :
    text.head? = some '#' := by
  cases token with
  | hash => cases found; rfl
  | positional => cases found; rfl
  | named => obtain ⟨name, rfl, -⟩ := found; rfl
  | unterminated => obtain ⟨name, rfl, -⟩ := found; rfl
  | pound => cases found; rfl
  | literal => exact absurd mem found.2

/-- Two number signs are one token, whatever follows. -/
theorem longest_hash : Longest .hash ['#', '#'] rest where
  token := rfl
  longest := by
    intro other longer found stands
    obtain rfl | ⟨next, tail, rfl, onward, kind⟩ := found.of_hash stands
    · simp
    · obtain ⟨rfl, -⟩ := List.cons_prefix_cons.mp onward
      have alone : tail = [] := by simpa using kind
      simp [alone]

/-- A number sign with a capital T is one token, whatever follows. -/
theorem longest_positional : Longest .positional ['#', 'T'] rest where
  token := rfl
  longest := by
    intro other longer found stands
    obtain rfl | ⟨next, tail, rfl, onward, kind⟩ := found.of_hash stands
    · simp
    · obtain ⟨rfl, -⟩ := List.cons_prefix_cons.mp onward
      have alone : tail = [] := by simpa using kind
      simp [alone]

/-- A placeholder with a name is one token, whatever follows. -/
theorem longest_named {name : Line} (unclosed : '\x7d' ∉ name) :
    Longest .named ('#' :: '\x7b' :: (name ++ ['\x7d'])) rest where
  token := ⟨name, rfl, unclosed⟩
  longest := by
    intro other longer found stands
    obtain rfl | ⟨next, tail, rfl, onward, kind⟩ := found.of_hash stands
    · simp
    · obtain ⟨rfl, inside⟩ := List.cons_prefix_cons.mp onward
      rw [List.append_eq, List.append_assoc, List.singleton_append] at inside
      obtain ⟨inner, absent, shape⟩ : ∃ inner, '\x7d' ∉ inner ∧ (tail = inner ∨ tail = inner ++ ['\x7d']) := by
        simpa using kind
      have stands : inner <+: tail := by
        rcases shape with rfl | rfl
        · exact List.prefix_rfl
        · exact List.prefix_append _ _
      have short := length_le_of_prefix (stands.trans inside) absent
      rcases shape with rfl | rfl <;> simp <;> omega

/-- A number sign is a token alone if nothing that follows belongs to it. -/
theorem longest_pound (special : ∀ c ∈ rest.head?, c ≠ '#' ∧ c ≠ 'T' ∧ c ≠ '\x7b') : Longest .pound ['#'] rest where
  token := rfl
  longest := by
    intro other longer found stands
    obtain rfl | ⟨next, tail, rfl, ⟨others, rfl⟩, kind⟩ := found.of_hash stands
    · simp
    · obtain ⟨notHash, notPositional, notBrace⟩ := special next rfl
      simp [notHash, notPositional, notBrace] at kind

/-- A run of text is one token if it ends with the line or at a number sign. -/
theorem longest_literal {text : Line} (nonempty : text ≠ []) (inside : '#' ∉ text) (ends : ∀ c ∈ rest.head?, c = '#') :
    Longest .literal text rest where
  token := ⟨nonempty, inside⟩
  longest := by
    intro other longer found stands
    by_cases mem : '#' ∈ longer
    · obtain ⟨tail, rfl⟩ := List.head?_eq_some_iff.mp (found.head?_of_mem mem)
      obtain ⟨c, others, rfl⟩ := List.exists_cons_of_ne_nil nonempty
      obtain ⟨rfl, -⟩ := List.cons_prefix_cons.mp stands
      exact absurd List.mem_cons_self inside
    · cases rest with
      | nil => simpa using stands.length_le
      | cons next others =>
        obtain rfl := ends next rfl
        exact length_le_of_prefix stands mem

/-- A segment at the start of a line is spelled as the longest token there. -/
theorem Begins.longest (begins : Begins line part rest) :
    line = part.spelling ++ rest ∧ ∃ token, Longest token part.spelling rest := by
  cases begins with
  | hash => exact ⟨rfl, _, longest_hash⟩
  | positional => exact ⟨rfl, _, longest_positional⟩
  | named nonempty unclosed => exact ⟨by simp [Segment.spelling], _, longest_named unclosed⟩
  | pound special => exact ⟨rfl, _, longest_pound special⟩
  | run nonempty inside ends => exact ⟨rfl, _, longest_literal nonempty inside ends⟩

/-- On a line that is read every placeholder that starts a token is closed and has a name. -/
theorem closed_of_scan (read : scan whole line = .ok parts) (reached : TokenAt line ('#' :: '\x7b' :: rest)) :
    Closed rest := by
  induction parts generalizing line with
  | nil =>
    obtain rfl := scan_eq_ok_nil_iff.mp read
    cases tokenAt_nil_iff.mp reached
  | cons part others ih =>
    obtain ⟨remaining, begins, onward⟩ := scan_eq_ok_cons_iff.mp read
    obtain ⟨rfl, token, longest⟩ := begins.longest
    rcases (tokenAt_append_iff longest).mp reached with here | later
    · by_contra broken
      obtain ⟨fault, error⟩ := scan_of_not_closed whole broken
      rw [here, read] at error
      cases error
    · exact ih onward later

/-- A line is read if every placeholder that starts a token on it is closed and has a name. -/
theorem exists_scan_of_closed (whole : String) (line : Line)
    (closed : ∀ rest, TokenAt line ('#' :: '\x7b' :: rest) → Closed rest) : ∃ parts, scan whole line = .ok parts := by
  rcases begins_cases line with rfl | ⟨part, rest, begins⟩ | ⟨rest, rfl, broken⟩
  · exact ⟨[], scan_eq_ok_nil_iff.mpr rfl⟩
  · obtain ⟨cut, token, longest⟩ := begins.longest
    have shorter : rest.length < line.length := by
      have consumed := List.length_pos_of_ne_nil longest.token.ne_nil
      rw [cut, List.length_append]
      omega
    have later : ∀ remaining, TokenAt rest ('#' :: '\x7b' :: remaining) → Closed remaining := fun remaining reached =>
      closed remaining (cut ▸ .next longest reached)
    obtain ⟨parts, read⟩ := exists_scan_of_closed whole rest later
    exact ⟨part :: parts, scan_eq_ok_cons_iff.mpr ⟨rest, begins, read⟩⟩
  · exact absurd (closed rest .first) broken
termination_by line.length

/-- A line is read exactly when every placeholder that starts a token on it, by longest match from left to right, has a
name and a closing brace; and then it is read as the one canonical list of segments that is spelled like it. -/
theorem segments_iff_canonical (line : Line) :
    ((∃ parts, segments line = .ok parts) ↔
      ∀ rest, TokenAt line ('#' :: '\x7b' :: rest) → '\x7d' ∈ rest ∧ rest.head? ≠ some '\x7d') ∧
    ∀ parts, segments line = .ok parts ↔ Canonical parts ∧ parts.flatMap Segment.spelling = line :=
  ⟨⟨fun ⟨_, read⟩ _ reached => closed_of_scan read reached, exists_scan_of_closed _ line⟩, fun _ => scan_eq_ok_iff⟩

/-- A name runs to the first closing brace, whatever else could be read in it. -/
example : segments "###\x7ba##T\x7d#[x]".toList =
    .ok [.hash, .named "a##T".toList, .literal ['#'], .literal "[x]".toList] := by
  decide +kernel

end Cratewright.Template
