import Mathlib.Data.List.Infix

/-! # Texts

The string functions of the standard library that the code uses and Lean does not have with
the same meaning: white space is the Unicode property, not only its ASCII part.
-/

namespace SmartGateway.Text

/-- `char::is_whitespace`: the Unicode property `White_Space`. -/
def isWhitespace (c : Char) : Bool :=
  let n := c.toNat
  (0x9 ≤ n && n ≤ 0xd) || n == 0x20 || n == 0x85 || n == 0xa0 || n == 0x1680 ||
    (0x2000 ≤ n && n ≤ 0x200a) || n == 0x2028 || n == 0x2029 || n == 0x202f || n == 0x205f ||
    n == 0x3000

/-- `str::trim`. -/
def trim (text : List Char) : List Char :=
  ((text.dropWhile isWhitespace).reverse.dropWhile isWhitespace).reverse

/-- `text.trim().is_empty()`. -/
def isBlank (text : String) : Bool :=
  (trim text.toList).isEmpty

/-- `text.contains(part)`. -/
def contains (text part : String) : Bool :=
  decide (part.toList <:+: text.toList)

/-- `text.starts_with(start)`. -/
def startsWith (text start : String) : Bool :=
  decide (start.toList <+: text.toList)

/-- `text.strip_prefix(start)`. -/
def stripPrefix (start text : List Char) : Option (List Char) :=
  if start <+: text then some (text.drop start.length) else none

/-- `line.strip_suffix('\r').unwrap_or(line)`. -/
def stripCarriageReturn (line : List Char) : List Char :=
  if line.getLast? = some '\r' then line.dropLast else line

/-- The lines of a text after `line`, which has not ended yet. -/
def linesFrom (line : List Char) : List Char → List (List Char)
  | [] => if line.isEmpty then [] else [line]
  | c :: rest =>
    if c = '\n' then stripCarriageReturn line :: linesFrom [] rest
    else linesFrom (line ++ [c]) rest

/-- `str::lines`: the lines without their ends, and no empty line after the last end. -/
def lines (text : List Char) : List (List Char) :=
  linesFrom [] text

/-- `str::as_bytes`. -/
def encode (text : List Char) : List UInt8 :=
  text.flatMap String.utf8EncodeChar

theorem stripPrefix_append (start text : List Char) :
    stripPrefix start (start ++ text) = some text := by
  rw [stripPrefix, if_pos (List.prefix_append start text), List.drop_left]

/-! ## Lines -/

/-- A line is read up to its end. -/
theorem linesFrom_line (before : List Char) {line : List Char} (h : '\n' ∉ line)
    (rest : List Char) :
    linesFrom before (line ++ '\n' :: rest) =
      stripCarriageReturn (before ++ line) :: linesFrom [] rest := by
  induction line generalizing before with
  | nil => rw [List.nil_append, linesFrom, if_pos rfl, List.append_nil]
  | cons c line ih =>
    rw [List.mem_cons, not_or] at h
    rw [List.cons_append, linesFrom, if_neg (Ne.symm h.1), ih (before ++ [c]) h.2,
      List.append_assoc]
    rfl

theorem stripCarriageReturn_of_not_mem {line : List Char} (h : '\r' ∉ line) :
    stripCarriageReturn line = line := by
  rw [stripCarriageReturn, if_neg]
  intro hlast
  exact h (List.mem_of_getLast? hlast)

/-! ## Bytes -/

theorem encode_append (first rest : List Char) :
    encode (first ++ rest) = encode first ++ encode rest :=
  List.flatMap_append

/-- A character has at least one byte. -/
theorem length_le_length_encode (text : List Char) : text.length ≤ (encode text).length := by
  induction text with
  | nil => exact Nat.le_refl _
  | cons c text ih =>
    have hsize := c.utf8Size_pos
    have hcons : encode (c :: text) = String.utf8EncodeChar c ++ encode text := List.flatMap_cons
    rw [hcons, List.length_append, String.length_utf8EncodeChar, List.length_cons]
    omega

theorem fromUTF8_encode (text : List Char) :
    String.fromUTF8? (encode text).toByteArray = some (String.ofList text) := by
  have hvalid : (encode text).toByteArray.IsValidUTF8 := ⟨text, rfl⟩
  rw [String.fromUTF8?, dif_pos hvalid]
  rfl

/-- The byte of a line feed occurs in the encoding of no other character. -/
theorem newline_mem_encodeChar {c : Char} (h : 10 ∈ String.utf8EncodeChar c) : c = '\n' := by
  unfold String.utf8EncodeChar at h
  dsimp only at h
  split at h
  · simp only [List.mem_singleton, ← UInt8.toNat_inj, UInt8.toNat_ofNat'] at h
    apply Char.ext
    apply UInt32.toNat_inj.mp
    change c.val.toNat = 10
    change 10 = _ at h
    omega
  -- the bytes of a longer encoding have their high bit set
  · split at h
    · simp [← UInt8.toNat_inj] at h
      omega
    · split at h
      · simp [← UInt8.toNat_inj] at h
        omega
      · simp [← UInt8.toNat_inj] at h
        omega

theorem newline_not_mem_encode {text : List Char} (h : '\n' ∉ text) : 10 ∉ encode text := by
  intro hmem
  rcases List.mem_flatMap.mp hmem with ⟨c, hc, hbyte⟩
  rw [newline_mem_encodeChar hbyte] at hc
  exact h hc

/-! ## Capital letters -/

theorem toLower_eq_self {text : String} (h : (text.toList.all fun c => c.toLower == c) = true) :
    text.toLower = text := by
  have hsame : ∀ c ∈ text.toList, c.toLower = c := by simpa using h
  have hmap : text.toList.map Char.toLower = text.toList.map id := List.map_congr_left hsame
  change text.map Char.toLower = text
  apply String.toList_inj.mp
  rw [String.toList_map, hmap, List.map_id]

theorem utf8Size_of_isUpper {c : Char} (h : c.isUpper = true) : c.utf8Size = 1 := by
  have hupper : c.val ≤ 90 := (of_decide_eq_true h).2
  have hle : c.val ≤ 127 := by
    rw [UInt32.le_iff_toNat_le] at hupper ⊢
    exact Nat.le_trans hupper (by decide)
  unfold Char.utf8Size
  exact if_pos hle

/-- A text of capital letters has one byte for each. -/
theorem utf8ByteSize_of_isUpper {text : List Char} (h : ∀ c ∈ text, c.isUpper = true) :
    (String.ofList text).utf8ByteSize = text.length := by
  induction text with
  | nil => rfl
  | cons c text ih =>
    have hcons : String.ofList (c :: text) = String.singleton c ++ String.ofList text := by
      apply String.toList_inj.mp
      simp
    rw [hcons, String.utf8ByteSize_append, String.utf8ByteSize_singleton,
      utf8Size_of_isUpper (h c List.mem_cons_self), ih fun d hd => h d (List.mem_cons_of_mem _ hd),
      List.length_cons, Nat.add_comm]

end SmartGateway.Text
