import ScyllaDriver.NativeValues

/-! A runtime with the fixed-width formats of the wire protocol: big-endian integers, UTF-8
text, a decimal as its scale and its digits. Floats are their bit patterns, a duration is
three fixed-width integers and a vector element carries its length in unary. A null vector
element is the four bytes of the length -1, and at the end of the content an element is null. -/

namespace ScyllaDriver

open Framing

def wireInterop : Interop where
  F32 := BitVec 32
  F64 := BitVec 64
  BigDecimal := BitVec 32 × Int
  Decimal := BitVec 32 × Int
  Date := BitVec 32
  Time := BitVec 64
  DateTime := BitVec 64

/-- A bit vector as `n` bytes. -/
def bitsToBytes (n : Nat) (value : BitVec (8 * n)) : Bytes := toBe n value.toNat

def bitsOfBytes (n : Nat) (content : Bytes) : Option (BitVec (8 * n)) :=
  if content.length = n then some (.ofNat (8 * n) (ofBe content)) else none

theorem bitsOfBytes_bitsToBytes (n : Nat) (value : BitVec (8 * n)) :
    bitsOfBytes n (bitsToBytes n value) = some value := by
  have hpow : (256 : Nat) ^ n = 2 ^ (8 * n) := by rw [pow_mul]; norm_num
  have hlt : value.toNat < 256 ^ n := hpow ▸ value.isLt
  simp [bitsOfBytes, bitsToBytes, ofBe_toBe, Nat.mod_eq_of_lt hlt]

/-- As many bytes as two's complement needs at most. -/
def varintToBytes (value : Int) : Bytes := toBeInt ((2 * value.natAbs).log2 / 8 + 1) value

theorem ofBeInt_varintToBytes (value : Int) : ofBeInt (varintToBytes value) = value := by
  rw [varintToBytes]
  generalize hn : (2 * value.natAbs).log2 / 8 + 1 = n
  have hsize : 2 * value.natAbs < 256 ^ n := by
    calc 2 * value.natAbs < 2 ^ ((2 * value.natAbs).log2 + 1) := Nat.lt_log2_self
      _ ≤ 2 ^ (8 * n) := Nat.pow_le_pow_right (by decide) (by omega)
      _ = 256 ^ n := by rw [pow_mul]; norm_num
  have hcast : ((256 ^ n : Nat) : Int) = 256 ^ n := by push_cast; rfl
  generalize 256 ^ n = bound at hsize hcast
  exact ofBeInt_toBeInt (by omega) (by omega)

def readUnary : Bytes → Option (Nat × Bytes)
  | [] => none
  | byte :: bytes =>
    if byte = 0 then some (0, bytes)
    else (readUnary bytes).map (fun result => (result.1 + 1, result.2))

theorem readUnary_replicate (n : Nat) (rest : Bytes) :
    readUnary (List.replicate n 1 ++ 0 :: rest) = some (n, rest) := by
  induction n with
  | zero => simp [readUnary]
  | succ n ih => simp [List.replicate_succ, readUnary, ih]

def wireEncode : (typ : NativeType) → RustValue wireInterop typ → Bytes
  | .ascii, value => (value : String).toByteArray.data.toList
  | .text, value => (value : String).toByteArray.data.toList
  | .boolean, value => [if value then 1 else 0]
  | .blob, value => value
  | .tinyInt, value => bitsToBytes 1 value
  | .smallInt, value => bitsToBytes 2 value
  | .int, value => bitsToBytes 4 value
  | .date, value => bitsToBytes 4 value
  | .bigInt, value => bitsToBytes 8 value
  | .counter, value => bitsToBytes 8 value
  | .time, value => bitsToBytes 8 value
  | .timestamp, value => bitsToBytes 8 value
  | .varint, value => varintToBytes value
  | .float, value => bitsToBytes 4 value
  | .double, value => bitsToBytes 8 value
  | .decimal, value => bitsToBytes 4 value.1 ++ varintToBytes value.2
  | .duration, value =>
    bitsToBytes 4 value.months ++ bitsToBytes 4 value.days ++ bitsToBytes 8 value.nanoseconds
  | .inet, .v4 address => bitsToBytes 4 address
  | .inet, .v6 address => bitsToBytes 16 address
  | .timeuuid, value => bitsToBytes 16 value
  | .uuid, value => bitsToBytes 16 value

def wireDecodeDuration (content : Bytes) : Option CqlDuration := do
  let months ← bitsOfBytes 4 (content.take 4)
  let days ← bitsOfBytes 4 ((content.drop 4).take 4)
  let nanoseconds ← bitsOfBytes 8 (content.drop 8)
  return ⟨months, days, nanoseconds⟩

def wireDecode : (typ : NativeType) → Bytes → Option (RustValue wireInterop typ)
  | .ascii, content => String.fromUTF8? ⟨content.toArray⟩
  | .text, content => String.fromUTF8? ⟨content.toArray⟩
  | .boolean, content => if content.length = 1 then some (content != [0]) else none
  | .blob, content => some content
  | .tinyInt, content => bitsOfBytes 1 content
  | .smallInt, content => bitsOfBytes 2 content
  | .int, content => bitsOfBytes 4 content
  | .date, content => bitsOfBytes 4 content
  | .bigInt, content => bitsOfBytes 8 content
  | .counter, content => bitsOfBytes 8 content
  | .time, content => bitsOfBytes 8 content
  | .timestamp, content => bitsOfBytes 8 content
  | .varint, content => some (ofBeInt content)
  | .float, content => bitsOfBytes 4 content
  | .double, content => bitsOfBytes 8 content
  | .decimal, content =>
    (bitsOfBytes 4 (content.take 4)).map (fun scale => (scale, ofBeInt (content.drop 4)))
  | .duration, content => wireDecodeDuration content
  | .inet, content =>
    if content.length = 4 then (bitsOfBytes 4 content).map .v4 else (bitsOfBytes 16 content).map .v6
  | .timeuuid, content => bitsOfBytes 16 content
  | .uuid, content => bitsOfBytes 16 content

def wireTypeSize : NativeType → Option Nat
  | .boolean => some 1
  | .int | .float => some 4
  | .bigInt | .double | .timestamp => some 8
  | .timeuuid | .uuid => some 16
  | _ => none

def wireTypeSizeForVector : ColumnType → Option Nat
  | .native typ => wireTypeSize typ
  | .vector elt dimensions => (wireTypeSizeForVector elt).map (· * dimensions)
  | .list _ _ => none
  | .set _ _ => none
  | .map _ _ _ => none
  | .userDefinedType _ _ _ _ => none
  | .tuple _ => none

def wireVectorElement (size : Option Nat) (cell : Cell) : Bytes :=
  let content := cell.getD (toBeInt 4 (-1))
  match size with
  | some _ => content
  | none => List.replicate content.length 1 ++ 0 :: content

/-- The next `n` bytes, null where nothing is left. -/
def wireReadBytes (n : Nat) (bytes : Bytes) : Option (Cell × Bytes) :=
  if bytes = [] then some (none, [])
  else (takeBytes n bytes).map (fun result => (some result.1, result.2))

def wireReadVectorElement (size : Option Nat) (bytes : Bytes) : Option (Cell × Bytes) :=
  match size with
  | some size => wireReadBytes size bytes
  | none => do
    let (length, rest) ← readUnary bytes
    wireReadBytes length rest

theorem wireReadBytes_append {content : Bytes} (h : content ≠ []) (rest : Bytes) :
    wireReadBytes content.length (content ++ rest) = some (some content, rest) := by
  simp [wireReadBytes, h]

theorem wireReadVectorElement_wireVectorElement {size : Option Nat} {content : Bytes}
    (h : content ≠ []) (hsize : ∀ n, size = some n → content.length = n) (rest : Bytes) :
    wireReadVectorElement size (wireVectorElement size (some content) ++ rest) =
      some (some content, rest) := by
  cases size with
  | none =>
    have hlength := readUnary_replicate content.length (content ++ rest)
    simp [wireReadVectorElement, wireVectorElement, hlength, wireReadBytes_append h]
  | some n =>
    obtain rfl := hsize n rfl
    exact wireReadBytes_append h rest

/-- `==` on the objects that the wire formats above are read as. -/
def wireEq : Scalar wireInterop → Scalar wireInterop → Bool
  | .bool a, .bool b => a = b
  | .int a, .int b => a = b
  | .str a, .str b => a = b
  | .bytes a, .bytes b => a = b
  | .uuid a, .uuid b => a = b
  | .ipv4Address a, .ipv4Address b => a = b
  | .ipv6Address a, .ipv6Address b => a = b
  | .cqlDate a, .cqlDate b => a = b
  | .cqlTime a, .cqlTime b => a = b
  | .cqlTimestamp a, .cqlTimestamp b => a = b
  | .cqlDuration a, .cqlDuration b => a = b
  | _, _ => false

def wireRuntime : Runtime wireInterop where
  eq := wireEq
  place items item := items ++ [item]
  encode typ value := .ok (wireEncode typ value)
  decode typ content := (wireDecode typ content).elim (.error (.invalidValue typ "")) .ok
  typeSizeForVector := wireTypeSizeForVector
  vint n := List.replicate n 1 ++ [0]
  vectorElement := wireVectorElement
  readVectorElement := wireReadVectorElement
  widen value := BitVec.setWidth 64 value
  narrow value := BitVec.setWidth 32 value
  extractF64
    | .float value => some value
    | _ => none
  extractBigDecimal
    | .decimal value => some value
    | _ => none
  decimalToPython value := .ok value
  extractNaiveDate
    | .date value => some value
    | _ => none
  extractNaiveTime
    | .time value => some value
    | _ => none
  awareDatetimeToUtc value := some value

theorem take_bitsToBytes (n : Nat) (value : BitVec (8 * n)) (rest : Bytes) :
    (bitsToBytes n value ++ rest).take n = bitsToBytes n value :=
  List.take_left' (length_toBe n _)

theorem drop_bitsToBytes (n : Nat) (value : BitVec (8 * n)) (rest : Bytes) :
    (bitsToBytes n value ++ rest).drop n = rest :=
  List.drop_left' (length_toBe n _)

theorem wireDecodeDuration_wireEncode (value : CqlDuration) :
    wireDecodeDuration (wireEncode .duration value) = some value := by
  obtain ⟨months, days, nanoseconds⟩ := value
  have hdrop : (wireEncode .duration ⟨months, days, nanoseconds⟩).drop 8 =
      bitsToBytes 8 nanoseconds := by
    rw [← List.drop_drop (i := 4) (j := 4), wireEncode, List.append_assoc]
    rw [drop_bitsToBytes 4 months, drop_bitsToBytes 4 days]
  simp only [wireDecodeDuration, hdrop]
  simp only [wireEncode, List.append_assoc]
  rw [take_bitsToBytes 4 months, drop_bitsToBytes 4 months, take_bitsToBytes 4 days,
    bitsOfBytes_bitsToBytes 4 months, bitsOfBytes_bitsToBytes 4 days,
    bitsOfBytes_bitsToBytes 8 nanoseconds]
  rfl

theorem wireDecode_wireEncode (typ : NativeType) (value : RustValue wireInterop typ) :
    wireDecode typ (wireEncode typ value) = some value := by
  cases typ with
  | ascii | text =>
    simp only [wireDecode, wireEncode, Array.toArray_toList, String.fromUTF8?]
    exact dif_pos (String.isValidUTF8 value)
  | boolean => cases value <;> rfl
  | blob => rfl
  | varint => exact congrArg some (ofBeInt_varintToBytes value)
  | decimal =>
    obtain ⟨scale, digits⟩ := value
    simp only [wireDecode, wireEncode]
    rw [take_bitsToBytes 4 scale, drop_bitsToBytes 4 scale, bitsOfBytes_bitsToBytes 4 scale,
      ofBeInt_varintToBytes]
    rfl
  | duration => exact wireDecodeDuration_wireEncode value
  | inet =>
    cases value with
    | v4 address =>
      have haddress := bitsOfBytes_bitsToBytes 4 address
      simpa [wireDecode, wireEncode, bitsToBytes] using haddress
    | v6 address =>
      have haddress := bitsOfBytes_bitsToBytes 16 address
      simpa [wireDecode, wireEncode, bitsToBytes] using haddress
  | tinyInt => exact bitsOfBytes_bitsToBytes 1 value
  | smallInt => exact bitsOfBytes_bitsToBytes 2 value
  | int | date | float => exact bitsOfBytes_bitsToBytes 4 value
  | bigInt | counter | time | timestamp | double => exact bitsOfBytes_bitsToBytes 8 value
  | timeuuid | uuid => exact bitsOfBytes_bitsToBytes 16 value

@[simp]
theorem length_bitsToBytes (n : Nat) (value : BitVec (8 * n)) : (bitsToBytes n value).length = n :=
  length_toBe n _

theorem varintToBytes_ne_nil (value : Int) : varintToBytes value ≠ [] := by
  intro h
  have hlength := congrArg List.length h
  simp [varintToBytes] at hlength

theorem length_wireEncode {typ : NativeType} {size : Nat} (value : RustValue wireInterop typ)
    (h : wireTypeSize typ = some size) : (wireEncode typ value).length = size := by
  cases typ with
  | boolean => cases h; rfl
  | int | float => cases h; exact length_bitsToBytes 4 value
  | bigInt | double | timestamp => cases h; exact length_bitsToBytes 8 value
  | timeuuid | uuid => cases h; exact length_bitsToBytes 16 value
  | _ => cases h

theorem bitsToBytes_ne_nil (n : Nat) (value : BitVec (8 * (n + 1))) :
    bitsToBytes (n + 1) value ≠ [] := by
  intro h
  have hlength := congrArg List.length h
  simp at hlength

theorem wireEncode_ne_nil {typ : NativeType} (value : RustValue wireInterop typ)
    (h : typ.canBeEmpty = false) : wireEncode typ value ≠ [] := by
  cases typ with
  | ascii | text | blob => cases h
  | boolean => exact List.cons_ne_nil _ _
  | varint => exact varintToBytes_ne_nil value
  | decimal => exact List.append_ne_nil_of_left_ne_nil (bitsToBytes_ne_nil 3 value.1) _
  | duration =>
    exact List.append_ne_nil_of_right_ne_nil _ (bitsToBytes_ne_nil 7 value.nanoseconds)
  | inet =>
    cases value with
    | v4 address => exact bitsToBytes_ne_nil 3 address
    | v6 address => exact bitsToBytes_ne_nil 15 address
  | tinyInt => exact bitsToBytes_ne_nil 0 value
  | smallInt => exact bitsToBytes_ne_nil 1 value
  | int | date | float => exact bitsToBytes_ne_nil 3 value
  | bigInt | counter | time | timestamp | double => exact bitsToBytes_ne_nil 7 value
  | timeuuid | uuid => exact bitsToBytes_ne_nil 15 value

theorem wireEq_comm (a b : Scalar wireInterop) : wireEq a b = wireEq b a := by
  cases a <;> cases b <;> simp [wireEq, eq_comm]

theorem wireRuntime_lawful : wireRuntime.Lawful where
  decode_encode typ value content h := by
    cases h
    simp [wireRuntime, wireDecode_wireEncode]
  encode_blob value := rfl
  encode_ne_nil typ value hempty h := wireEncode_ne_nil value hempty (Except.ok.inj h)
  length_encode typ value content size h hsize := by
    cases h
    exact length_wireEncode value hsize
  typeSize_canBeEmpty typ h := by cases typ <;> cases h <;> rfl
  typeSize_vector elt dimensions size h := by
    obtain ⟨eltSize, helt, rfl⟩ := Option.map_eq_some_iff.mp h
    exact ⟨eltSize, helt, rfl⟩
  typeSize_cases typ size h := by
    cases typ with
    | native typ => exact .inl ⟨typ, rfl⟩
    | vector elt dimensions => exact .inr ⟨elt, dimensions, rfl⟩
    | _ => cases h
  vint_ne_nil n := by simp [wireRuntime]
  vectorElement_sized size content := rfl
  vectorElement_unsized content := by simp [wireRuntime, wireVectorElement]
  readVectorElement_vectorElement size content rest h hsize :=
    wireReadVectorElement_wireVectorElement h hsize rest
  decimalToPython_encode value _ _ := ⟨value, rfl⟩
  eq_comm := wireEq_comm
  eq_str a b := rfl
  place_perm items item := List.perm_append_singleton item items
  encode_decode typ value _ _ := ⟨wireEncode typ value, rfl⟩
  narrow_widen value := by
    have hsame := BitVec.setWidth_setWidth_of_le (k := 32) (l := 64) (x := value) (by decide)
    exact hsame.trans (BitVec.setWidth_eq value)
  extractF64_float value := rfl
  extractBigDecimal_decimal value _ h := by
    cases h
    rfl

end ScyllaDriver
