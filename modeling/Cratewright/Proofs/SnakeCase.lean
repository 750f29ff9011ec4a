import Cratewright.CompilationUnit
import Mathlib.Data.List.SplitBy

/-!
# Snake case and the words of a name

A name in ASCII falls into words: a new one begins with each capital that directly follows a small letter or a digit.
Main statement: the snake case of a name is its words in lower case with an underscore between any two of them. It has
no capital and is its own snake case, and without underscores of its own a name can be told from it up to letter case.
-/

namespace Cratewright

/-- Every character is in ASCII. -/
def Ascii (chars : List Char) : Prop := ∀ c ∈ chars, c.toNat < 0x80

instance (chars : List Char) : Decidable (Ascii chars) := List.decidableBAll _ chars

/-- A name is in ASCII if its first character and the rest are. -/
theorem ascii_cons {c : Char} {rest : List Char} : Ascii (c :: rest) ↔ c.toNat < 0x80 ∧ Ascii rest :=
  List.forall_mem_cons

/-- A name in two parts is in ASCII if either part is. -/
theorem ascii_append {before after : List Char} : Ascii (before ++ after) ↔ Ascii before ∧ Ascii after :=
  List.forall_mem_append

/-- Whether a character may be the last of a word that another word follows. -/
def endsWord (c : Char) : Bool := c.isLower || c.isDigit

/-- Whether a new word begins between two neighbouring characters. -/
def turns (c next : Char) : Bool := endsWord c && next.isUpper

/-- The words of a name: the longest pieces in which no new word begins. -/
def words (name : List Char) : List (List Char) := name.splitBy fun c next => !turns c next

/-- Characters in lower case. -/
def lowerCase (chars : List Char) : List Char := chars.map Char.toLower

/-- An underscore if a new word begins between two neighbouring parts of a name, and nothing if none does. -/
def seam (before after : List Char) : List Char :=
  if before.getLast?.any endsWord && after.head?.any Char.isUpper then ['_'] else []

/-- The capitals stand in one row. -/
theorem isUpper_iff {c : Char} : c.isUpper = true ↔ 65 ≤ c.toNat ∧ c.toNat ≤ 90 :=
  decide_eq_true_iff.trans (and_congr UInt32.le_iff_toNat_le UInt32.le_iff_toNat_le)

/-- The small letters stand in one row. -/
theorem isLower_iff {c : Char} : c.isLower = true ↔ 97 ≤ c.toNat ∧ c.toNat ≤ 122 :=
  Bool.and_eq_true_iff.trans (and_congr (decide_eq_true_iff.trans UInt32.le_iff_toNat_le)
    (decide_eq_true_iff.trans UInt32.le_iff_toNat_le))

/-- The digits stand in one row. -/
theorem isDigit_iff {c : Char} : c.isDigit = true ↔ 48 ≤ c.toNat ∧ c.toNat ≤ 57 :=
  Bool.and_eq_true_iff.trans (and_congr (decide_eq_true_iff.trans UInt32.le_iff_toNat_le)
    (decide_eq_true_iff.trans UInt32.le_iff_toNat_le))

/-- A capital ends no word. -/
theorem endsWord_of_isUpper {c : Char} (upper : c.isUpper = true) : endsWord c = false := by
  obtain ⟨above, below⟩ := isUpper_iff.mp upper
  rw [endsWord, Bool.or_eq_false_iff, Bool.eq_false_iff, Bool.eq_false_iff, ne_eq, ne_eq, isLower_iff, isDigit_iff]
  omega

/-- The small letters stand 32 places behind the capitals. -/
theorem toNat_toLower_of_isUpper {c : Char} (upper : c.isUpper = true) : c.toLower.toNat = c.toNat + 32 := by
  have capital : c.val ≥ 'A'.val ∧ c.val ≤ 'Z'.val := of_decide_eq_true upper
  have below := (isUpper_iff.mp upper).2
  have shifted : c.toLower.val = c.val + 32 := congrArg Char.val (dif_pos capital)
  calc c.toLower.toNat
      = (c.val + 32).toNat := congrArg UInt32.toNat shifted
    _ = (c.toNat + 32) % 2 ^ 32 := UInt32.toNat_add c.val 32
    _ = c.toNat + 32 := Nat.mod_eq_of_lt (by omega)

/-- Only capitals become other characters. -/
theorem toLower_of_not_isUpper {c : Char} (other : ¬ c.isUpper = true) : c.toLower = c :=
  dif_neg fun capital => other (decide_eq_true capital)

/-- The lower-case form of a character is in ASCII with it and is no capital. -/
theorem isUpper_toLower {c : Char} (ascii : c.toNat < 0x80) : Text.isUpper c.toLower = false := by
  by_cases upper : c.isUpper = true
  · have same := toNat_toLower_of_isUpper upper
    obtain ⟨above, below⟩ := isUpper_iff.mp upper
    rw [Text.isUpper_ascii (by omega), Bool.eq_false_iff, ne_eq, isUpper_iff]
    omega
  · rw [toLower_of_not_isUpper upper, Text.isUpper_ascii ascii]
    exact Bool.eq_false_iff.mpr upper

/-- No letter becomes an underscore. -/
theorem eq_underscore_of_toLower {c : Char} (lowered : c.toLower = '_') : c = '_' := by
  by_cases upper : c.isUpper = true
  · have above := (isUpper_iff.mp upper).1
    have same := congrArg Char.toNat lowered
    rw [toNat_toLower_of_isUpper upper] at same
    have underscore : ('_').toNat = 95 := rfl
    omega
  · rwa [toLower_of_not_isUpper upper] at lowered

/-- In ASCII a character is written in lower case, behind an underscore if it is a capital and a word has ended. -/
theorem snakeChars_cons {c : Char} (ascii : c.toNat < 0x80) (afterWord : Bool) (rest : List Char) :
    snakeChars afterWord (c :: rest) =
      (if afterWord && c.isUpper then ['_'] else []) ++ c.toLower :: snakeChars (endsWord c) rest := by
  rw [snakeChars, Text.isUpper_ascii ascii, Text.isLower_ascii ascii, Text.lowered_ascii ascii]
  by_cases upper : c.isUpper = true
  · simp [upper, endsWord_of_isUpper upper]
  · simp [upper, endsWord, toLower_of_not_isUpper upper]

/-- What stands before a name has an influence on its first character only. -/
theorem snakeChars_eq {name : List Char} (ascii : Ascii name) (afterWord : Bool) :
    snakeChars afterWord name =
      (if afterWord && name.head?.any Char.isUpper then ['_'] else []) ++ snakeChars false name := by
  cases name with
  | nil => simp [snakeChars]
  | cons c rest =>
    have first := (ascii_cons.mp ascii).1
    simp [snakeChars_cons first]

/-- The snake case of a name in two parts is that of the parts, with an underscore between them if a word begins there.
-/
theorem snakeChars_append {before after : List Char} (ascii : Ascii (before ++ after)) :
    snakeChars false (before ++ after) = snakeChars false before ++ seam before after ++ snakeChars false after := by
  induction before with
  | nil => simp [snakeChars, seam]
  | cons c rest ih =>
    rw [List.cons_append] at ascii ⊢
    obtain ⟨first, later⟩ := ascii_cons.mp ascii
    rw [snakeChars_cons first, snakeChars_cons first, snakeChars_eq later]
    -- The second part is met by the last character of the first one only.
    cases rest with
    | nil => simp [snakeChars, seam]
    | cons d others =>
      have inner : Ascii (d :: others) := (ascii_append.mp later).1
      rw [ih later, snakeChars_eq inner (endsWord c)]
      simp [seam]

/-- An underscore stands between two parts if a new word begins with the second one. -/
theorem seam_of_turns {before after rest : List Char} {filled : before ≠ []} {follows : after ≠ []}
    (turn : turns (before.getLast filled) (after.head follows) = true) : seam before (after ++ rest) = ['_'] := by
  rw [turns, Bool.and_eq_true] at turn
  rw [seam, List.getLast?_eq_some_getLast filled, List.head?_append_of_ne_nil after follows,
    List.head?_eq_some_head follows]
  simp [turn]

/-- A part of a name in which no new word begins is written in lower case. -/
theorem snakeChars_of_isChain {name : List Char} (ascii : Ascii name)
    (unbroken : name.IsChain fun c next => (!turns c next) = true) : snakeChars false name = lowerCase name := by
  induction name with
  | nil => rfl
  | cons c rest ih =>
    obtain ⟨first, later⟩ := ascii_cons.mp ascii
    have start : (endsWord c && rest.head?.any Char.isUpper) = false := by
      cases rest with
      | nil => simp
      | cons d others =>
        have stays := (List.isChain_cons_cons.mp unbroken).1
        rwa [Bool.not_eq_true', turns] at stays
    rw [snakeChars_cons first, snakeChars_eq later, start, ih later unbroken.tail]
    simp [lowerCase]

/-- Pieces in which no new word begins, though one begins with each of them but the first, are written in lower case
with an underscore between any two. -/
theorem snakeChars_flatten {pieces : List (List Char)} (ascii : Ascii pieces.flatten)
    (unbroken : ∀ piece ∈ pieces, piece.IsChain fun c next => (!turns c next) = true)
    (apart : pieces.IsChain fun piece next => ∃ (filled : piece ≠ []) (follows : next ≠ []),
      (!turns (piece.getLast filled) (next.head follows)) = false) :
    snakeChars false pieces.flatten = ['_'].intercalate (pieces.map lowerCase) := by
  induction pieces with
  | nil => rfl
  | cons piece rest ih =>
    have parts : Ascii (piece ++ rest.flatten) := ascii
    have written := snakeChars_of_isChain (ascii_append.mp parts).1 (unbroken piece List.mem_cons_self)
    have behind := ih (ascii_append.mp parts).2
      (fun other mem => unbroken other (List.mem_cons_of_mem piece mem)) apart.tail
    rw [List.flatten_cons, snakeChars_append parts, written, behind]
    cases rest with
    | nil => simp [seam]
    | cons next others =>
      obtain ⟨filled, follows, turn⟩ := (List.isChain_cons_cons.mp apart).1
      rw [Bool.not_eq_false'] at turn
      rw [List.flatten_cons, seam_of_turns turn]
      simp [List.intercalate_cons_cons]

/-- The snake case of a name is its words in lower case, with an underscore between any two of them. -/
theorem snakeChars_eq_intercalate {name : List Char} (ascii : Ascii name) :
    snakeChars false name = ['_'].intercalate ((words name).map lowerCase) := by
  obtain ⟨whole, -, unbroken, apart⟩ := List.splitBy_eq_iff.mp (rfl : words name = words name)
  have written := snakeChars_flatten (whole ▸ ascii) unbroken apart
  rwa [← whole] at written

/-- Without the underscores, the words in lower case are the name in lower case. -/
theorem flatten_map_lowerCase_words (name : List Char) :
    ((words name).map lowerCase).flatten = lowerCase name := by
  have joined : (words name).flatten = name := List.flatten_splitBy _ name
  calc ((words name).map lowerCase).flatten
      = lowerCase (words name).flatten := List.map_flatten.symm
    _ = lowerCase name := by rw [joined]

/-- A name in snake case has no capital. -/
theorem isUpper_of_mem_snakeChars {name : List Char} (ascii : Ascii name) {afterWord : Bool} :
    ∀ c ∈ snakeChars afterWord name, Text.isUpper c = false := by
  induction name generalizing afterWord with
  | nil => simp [snakeChars]
  | cons d rest ih =>
    obtain ⟨first, later⟩ := ascii_cons.mp ascii
    intro c mem
    rw [snakeChars_cons first, List.mem_append, List.mem_cons] at mem
    rcases mem with underscore | rfl | written
    · have only : c = '_' := by
        split at underscore
        · exact List.mem_singleton.mp underscore
        · exact absurd underscore List.not_mem_nil
      rw [only]
      decide
    · exact isUpper_toLower first
    · exact ih later c written

/-- A text without capitals stays as it is. -/
theorem snakeChars_of_isUpper_eq_false {text : List Char} (small : ∀ c ∈ text, Text.isUpper c = false)
    (afterWord : Bool) : snakeChars afterWord text = text := by
  induction text generalizing afterWord with
  | nil => rfl
  | cons c rest ih =>
    have stays : ¬ Text.isUpper c = true := by simp [small c List.mem_cons_self]
    rw [snakeChars, if_neg stays, ih fun other mem => small other (List.mem_cons_of_mem c mem)]

/-- If a name has no underscore, its words can be told from its snake case, and so can the name up to letter case. -/
theorem flatten_splitOn_snakeChars {name : List Char} (ascii : Ascii name) (plain : '_' ∉ name) :
    ((snakeChars false name).splitOn '_').flatten = lowerCase name := by
  by_cases empty : name = []
  · rw [empty]
    rfl
  · have some_word : (words name).map lowerCase ≠ [] := by
      rw [ne_eq, List.map_eq_nil_iff]
      exact List.splitBy_ne_nil.mpr empty
    have apart : ∀ word ∈ (words name).map lowerCase, '_' ∉ word := by
      intro word mem underscore
      have inside : '_' ∈ lowerCase name := by
        rw [← flatten_map_lowerCase_words]
        exact List.mem_flatten_of_mem mem underscore
      obtain ⟨c, found, lowered⟩ := List.mem_map.mp inside
      exact plain (eq_underscore_of_toLower lowered ▸ found)
    rw [snakeChars_eq_intercalate ascii, List.splitOn_intercalate '_' apart some_word, flatten_map_lowerCase_words]

/-- In ASCII a name in snake case has no capital and is its words in lower case, with an underscore between any two of
them. It is its own snake case. Two names without underscores whose operations are put into one module differ in letter
case alone. -/
theorem snakeCase_ascii {name : String} (ascii : Ascii name.toList) :
    (∀ c ∈ (snakeCase name).toList, Text.isUpper c = false) ∧
    (snakeCase name).toList = ['_'].intercalate ((words name.toList).map lowerCase) ∧
    ((words name.toList).map lowerCase).flatten = lowerCase name.toList ∧
    snakeCase (snakeCase name) = snakeCase name ∧
    ∀ operation other : Operation, operation.name = name → Ascii other.name.toList →
      '_' ∉ name.toList → '_' ∉ other.name.toList →
      (CompilationUnit.operation operation).modulePath = (CompilationUnit.operation other).modulePath →
      lowerCase name.toList = lowerCase other.name.toList := by
  have capitals : ∀ c ∈ (snakeCase name).toList, Text.isUpper c = false := by
    rw [snakeCase, String.toList_ofList]
    exact isUpper_of_mem_snakeChars ascii
  refine ⟨capitals, ?_, flatten_map_lowerCase_words _, ?_, ?_⟩
  · rw [snakeCase, String.toList_ofList, snakeChars_eq_intercalate ascii]
  · rw [snakeCase, snakeChars_of_isUpper_eq_false capitals, String.ofList_toList]
  · rintro operation other rfl asciiOther plain plainOther same
    have shared : snakeCase operation.name = snakeCase other.name := (String.append_right_inj _).mp same
    rw [snakeCase, snakeCase, String.ofList_inj] at shared
    rw [← flatten_splitOn_snakeChars ascii plain, shared, flatten_splitOn_snakeChars asciiOther plainOther]

/-- Two operations that are put into one module, since their names differ in the case of the first letter alone. -/
theorem snakeCase_ascii_putItem :
    Ascii "v2PutHTTPItem".toList ∧ Ascii "V2PutHTTPItem".toList ∧
      (∀ c ∈ (snakeCase "v2PutHTTPItem").toList, Text.isUpper c = false) ∧
      (snakeCase "v2PutHTTPItem").toList = ['_'].intercalate ["v2".toList, "put".toList, "httpitem".toList] ∧
      snakeCase (snakeCase "v2PutHTTPItem") = snakeCase "v2PutHTTPItem" ∧
      (CompilationUnit.operation ⟨"v2PutHTTPItem", "Storage", []⟩).modulePath =
        (CompilationUnit.operation ⟨"V2PutHTTPItem", "Storage", []⟩).modulePath ∧
      lowerCase "v2PutHTTPItem".toList = lowerCase "V2PutHTTPItem".toList := by
  have ascii : Ascii "v2PutHTTPItem".toList := by decide
  have other : Ascii "V2PutHTTPItem".toList := by decide
  have shared : (CompilationUnit.operation ⟨"v2PutHTTPItem", "Storage", []⟩).modulePath =
      (CompilationUnit.operation ⟨"V2PutHTTPItem", "Storage", []⟩).modulePath := by decide
  have pieces : (words "v2PutHTTPItem".toList).map lowerCase = ["v2".toList, "put".toList, "httpitem".toList] := by
    decide
  obtain ⟨capitals, written, -, again, modules⟩ := snakeCase_ascii ascii
  rw [pieces] at written
  exact ⟨ascii, other, capitals, written, again, shared,
    modules ⟨"v2PutHTTPItem", "Storage", []⟩ ⟨"V2PutHTTPItem", "Storage", []⟩ rfl other (by decide) (by decide) shared⟩

end Cratewright
