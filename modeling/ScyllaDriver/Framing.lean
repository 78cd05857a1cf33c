import Mathlib.Data.List.Forall2
import Mathlib.Tactic.Positivity
import Mathlib.Tactic.Ring

/-! Big-endian integers, length-prefixed cells and items read off a list of bytes
one after the other. A cell is `none` for null; its length is a signed 32-bit
integer, negative for null. -/

namespace Framing

abbrev Bytes := List UInt8

abbrev Cell := Option Bytes

/-- The `n` lowest bytes of `x`, the highest of them first. -/
def toBe : Nat → Nat → Bytes
  | 0, _ => []
  | n + 1, x => toBe n (x / 256) ++ [UInt8.ofNat x]

def ofBe (bytes : Bytes) : Nat := bytes.foldl (fun acc byte => acc * 256 + byte.toNat) 0

/-- Two's complement in `n` bytes. -/
def toBeInt (n : Nat) (x : Int) : Bytes := toBe n (x % 256 ^ n).toNat

def ofBeInt (bytes : Bytes) : Int :=
  if 2 * ofBe bytes < 256 ^ bytes.length then ofBe bytes
  else ofBe bytes - 256 ^ bytes.length

@[simp]
theorem length_toBe (n x : Nat) : (toBe n x).length = n := by
  induction n generalizing x with
  | zero => rfl
  | succ n ih => simp [toBe, ih]

@[simp]
theorem length_toBeInt (n : Nat) (x : Int) : (toBeInt n x).length = n := length_toBe n _

theorem ofBe_append_singleton (bytes : Bytes) (byte : UInt8) :
    ofBe (bytes ++ [byte]) = ofBe bytes * 256 + byte.toNat := by
  simp [ofBe]

theorem ofBe_toBe (n x : Nat) : ofBe (toBe n x) = x % 256 ^ n := by
  induction n generalizing x with
  | zero => simp [toBe, ofBe, Nat.mod_one]
  | succ n ih =>
    have hsplit : x % 256 ^ (n + 1) = x % 256 + 256 * (x / 256 % 256 ^ n) := by
      rw [pow_succ', Nat.mod_mul]
    rw [toBe, ofBe_append_singleton, ih, UInt8.toNat_ofNat', hsplit]
    omega

theorem ofBeInt_toBeInt {n : Nat} {x : Int} (hlow : -(256 ^ n) ≤ 2 * x) (hhigh : 2 * x < 256 ^ n) :
    ofBeInt (toBeInt n x) = x := by
  have hpos : (0 : Int) < 256 ^ n := by positivity
  have hcast : ((256 ^ n : Nat) : Int) = 256 ^ n := by push_cast; rfl
  have hmod : ((ofBe (toBeInt n x) : Nat) : Int) = x % 256 ^ n := by
    rw [toBeInt, ofBe_toBe, Nat.mod_eq_of_lt]
    · exact Int.toNat_of_nonneg (Int.emod_nonneg _ hpos.ne')
    · have hlt := Int.emod_lt_of_pos x hpos
      have hnonneg := Int.emod_nonneg x hpos.ne'
      omega
  rw [ofBeInt, length_toBeInt]
  by_cases hneg : 0 ≤ x
  · have hsmall : x % 256 ^ n = x := Int.emod_eq_of_lt hneg (by omega)
    rw [if_pos (by omega), hmod, hsmall]
  · have hwrap : x % 256 ^ n = x + 256 ^ n := by
      rw [← Int.add_emod_right]
      exact Int.emod_eq_of_lt (by omega) (by omega)
    rw [if_neg (by omega), hmod, hwrap]
    omega

/-- The first `n` bytes and the bytes after them. -/
def takeBytes (n : Nat) (bytes : Bytes) : Option (Bytes × Bytes) :=
  if n ≤ bytes.length then some (bytes.take n, bytes.drop n) else none

@[simp]
theorem takeBytes_append (bytes rest : Bytes) :
    takeBytes bytes.length (bytes ++ rest) = some (bytes, rest) := by
  simp [takeBytes]

def readI32 (bytes : Bytes) : Option (Int × Bytes) := do
  let (head, rest) ← takeBytes 4 bytes
  return (ofBeInt head, rest)

/-- The largest length a signed 32-bit prefix can state. -/
def maxLength : Nat := 2 ^ 31 - 1

theorem readI32_toBeInt {x : Int} (hlow : -2 ^ 31 ≤ x) (hhigh : x < 2 ^ 31) (rest : Bytes) :
    readI32 (toBeInt 4 x ++ rest) = some (x, rest) := by
  have htake : takeBytes 4 (toBeInt 4 x ++ rest) = some (toBeInt 4 x, rest) := by
    simpa using takeBytes_append (toBeInt 4 x) rest
  simp [readI32, htake, ofBeInt_toBeInt (n := 4) (x := x) (by omega) (by omega)]

theorem readI32_length {n : Nat} (h : n ≤ maxLength) (rest : Bytes) :
    readI32 (toBeInt 4 n ++ rest) = some ((n : Int), rest) := by
  simp only [maxLength] at h
  exact readI32_toBeInt (by omega) (by omega) rest

def writeCell : Cell → Bytes
  | none => toBeInt 4 (-1)
  | some content => toBeInt 4 content.length ++ content

def readCell (bytes : Bytes) : Option (Cell × Bytes) := do
  let (length, rest) ← readI32 bytes
  if length < 0 then return (none, rest)
  let (content, rest) ← takeBytes length.toNat rest
  return (some content, rest)

def Cell.Fits (cell : Cell) : Prop := ∀ content, cell = some content → content.length ≤ maxLength

@[simp]
theorem fits_none : Cell.Fits none := by simp [Cell.Fits]

@[simp]
theorem fits_some {content : Bytes} : Cell.Fits (some content) ↔ content.length ≤ maxLength := by
  simp [Cell.Fits]

theorem readCell_writeCell {cell : Cell} (h : cell.Fits) (rest : Bytes) :
    readCell (writeCell cell ++ rest) = some (cell, rest) := by
  cases cell with
  | none => simp [readCell, writeCell, readI32_toBeInt (x := -1) (by omega) (by omega)]
  | some content =>
    have hlength := readI32_length (fits_some.mp h) (content ++ rest)
    simp [readCell, writeCell, hlength]

theorem length_writeCell (cell : Cell) : (writeCell cell).length = 4 + (cell.getD []).length := by
  cases cell <;> simp [writeCell]

theorem writeCell_ne_nil (cell : Cell) : writeCell cell ≠ [] := by
  intro h
  have hlength := length_writeCell cell
  simp only [h, List.length_nil] at hlength
  omega

section Items

variable {ε α β γ σ : Type}

/-- The items `read` takes off the front of the bytes, one after the other. -/
def Reads (read : Bytes → Option (α × Bytes)) : Bytes → List α → Prop
  | _, [] => True
  | bytes, item :: items => ∃ rest, read bytes = some (item, rest) ∧ Reads read rest items

theorem reads_flatMap {read : Bytes → Option (α × Bytes)} {write : α → Bytes} {items : List α}
    (h : ∀ item ∈ items, ∀ rest, read (write item ++ rest) = some (item, rest)) :
    Reads read (items.flatMap write) items := by
  induction items with
  | nil => trivial
  | cons item items ih =>
    rw [List.forall_mem_cons] at h
    exact ⟨items.flatMap write, h.1 _, ih h.2⟩

theorem Reads.unique {read : Bytes → Option (α × Bytes)} {bytes : Bytes} {items items' : List α}
    (h : Reads read bytes items) (h' : Reads read bytes items')
    (hlength : items.length = items'.length) : items = items' := by
  induction items generalizing bytes items' with
  | nil => exact (List.length_eq_zero_iff.mp hlength.symm).symm
  | cons item items ih =>
    cases items' with
    | nil => simp at hlength
    | cons item' items' =>
      obtain ⟨rest, hread, hrest⟩ := h
      obtain ⟨rest', hread', hrest'⟩ := h'
      obtain ⟨rfl, rfl⟩ : item = item' ∧ rest = rest' := by simpa using hread.symm.trans hread'
      rw [ih hrest hrest' (by simpa using hlength)]

/-- `step` over the items, each with its index. -/
def foldIdx (step : Nat → σ → α → Except ε σ) : Nat → σ → List α → Except ε σ
  | _, state, [] => .ok state
  | i, state, item :: items => do
    let state ← step i state item
    foldIdx step (i + 1) state items

/-- Reads `count` items and takes a step at each before the next is read. -/
def foldItems (read : Bytes → Option (α × Bytes)) (missing : Nat → ε)
    (step : Nat → σ → α → Except ε σ) : Nat → Nat → Bytes → σ → Except ε σ
  | 0, _, _, state => .ok state
  | count + 1, i, bytes, state =>
    match read bytes with
    | none => .error (missing i)
    | some (item, rest) => do
      let state ← step i state item
      foldItems read missing step count (i + 1) rest state

theorem bind_eq_ok_iff {x : Except ε α} {f : α → Except ε β} {b : β} :
    (x >>= f) = .ok b ↔ ∃ a, x = .ok a ∧ f a = .ok b := by
  cases x <;> simp [bind, Except.bind]

theorem bind_eq_error_iff {x : Except ε α} {f : α → Except ε β} {err : ε} :
    (x >>= f) = .error err ↔ x = .error err ∨ ∃ a, x = .ok a ∧ f a = .error err := by
  cases x <;> simp [bind, Except.bind]

theorem foldItems_eq_ok_iff {read : Bytes → Option (α × Bytes)} {missing : Nat → ε}
    {step : Nat → σ → α → Except ε σ} {count i : Nat} {bytes : Bytes} {state final : σ} :
    foldItems read missing step count i bytes state = .ok final ↔
      ∃ items, items.length = count ∧ Reads read bytes items ∧
        foldIdx step i state items = .ok final := by
  induction count generalizing i bytes state with
  | zero =>
    simp only [foldItems, List.length_eq_zero_iff]
    exact ⟨fun h => ⟨[], rfl, trivial, h⟩, fun ⟨_, hnil, _, h⟩ => by simpa [hnil, foldIdx] using h⟩
  | succ count ih =>
    constructor
    · intro h
      rw [foldItems] at h
      split at h
      · cases h
      · rename_i item rest hread
        obtain ⟨state', hstep, hrest⟩ := bind_eq_ok_iff.mp h
        obtain ⟨items, hlength, hreads, hfold⟩ := ih.mp hrest
        refine ⟨item :: items, by simp [hlength], ⟨rest, hread, hreads⟩, ?_⟩
        exact bind_eq_ok_iff.mpr ⟨state', hstep, hfold⟩
    · rintro ⟨items, hlength, hreads, hfold⟩
      cases items with
      | nil => simp at hlength
      | cons item items =>
        obtain ⟨rest, hread, hreads⟩ := hreads
        obtain ⟨state', hstep, hfold⟩ := bind_eq_ok_iff.mp hfold
        rw [foldItems, hread]
        exact bind_eq_ok_iff.mpr
          ⟨state', hstep, ih.mpr ⟨items, by simpa using hlength, hreads, hfold⟩⟩

/-- Steps that take a value with each item and put it into the state by `build`. -/
theorem foldIdx_eq_ok_iff {ε' : Type} {step : Nat → σ → α → Except ε σ} {r : α → γ → Prop}
    {build : σ → γ → Except ε' σ}
    (h : ∀ i state item state', step i state item = .ok state' ↔
      ∃ c, r item c ∧ build state c = .ok state') {items : List α} {i : Nat} {state final : σ} :
    foldIdx step i state items = .ok final ↔
      ∃ cs, List.Forall₂ r items cs ∧ cs.foldlM build state = .ok final := by
  induction items generalizing i state with
  | nil => simp [foldIdx, pure, Except.pure]
  | cons item items ih =>
    simp only [foldIdx, bind_eq_ok_iff, h, ih, List.forall₂_cons_left_iff]
    constructor
    · rintro ⟨state', ⟨c, hc, hbuild⟩, cs, hcs, hfold⟩
      refine ⟨c :: cs, ⟨c, cs, hc, hcs, rfl⟩, ?_⟩
      rw [List.foldlM_cons]
      exact bind_eq_ok_iff.mpr ⟨state', hbuild, hfold⟩
    · rintro ⟨_, ⟨c, cs, hc, hcs, rfl⟩, hfold⟩
      rw [List.foldlM_cons] at hfold
      obtain ⟨state', hbuild, hfold⟩ := bind_eq_ok_iff.mp hfold
      exact ⟨state', ⟨c, hc, hbuild⟩, cs, hcs, hfold⟩

/-- The bytes `write` gives for the items, one after the other. -/
def concatM (write : α → Except ε Bytes) : List α → Except ε Bytes
  | [] => .ok []
  | item :: items => do
    let bytes ← write item
    let rest ← concatM write items
    return bytes ++ rest

theorem concatM_eq_ok_iff {write : α → Except ε Bytes} {items : List α} {bytes : Bytes} :
    concatM write items = .ok bytes ↔
      ∃ parts, List.Forall₂ (fun item part => write item = .ok part) items parts ∧
        bytes = parts.flatten := by
  induction items generalizing bytes with
  | nil => simp [concatM, eq_comm]
  | cons item items ih =>
    constructor
    · intro h
      obtain ⟨part, hpart, h⟩ := bind_eq_ok_iff.mp h
      obtain ⟨rest, hrest, h⟩ := bind_eq_ok_iff.mp h
      obtain ⟨parts, hparts, rfl⟩ := ih.mp hrest
      exact ⟨part :: parts, .cons hpart hparts, by simpa using (Except.ok.inj h).symm⟩
    · rintro ⟨_, hparts, rfl⟩
      cases hparts with
      | cons hpart hparts =>
        refine bind_eq_ok_iff.mpr ⟨_, hpart, bind_eq_ok_iff.mpr ⟨_, ih.mpr ⟨_, hparts, rfl⟩, ?_⟩⟩
        rw [List.flatten_cons]
        rfl

/-- `concatM_eq_ok_iff` where each part is the bytes `f` gives for some `c` that goes with the item. -/
theorem concatM_eq_ok_iff_flatMap {write : α → Except ε Bytes} {r : α → γ → Prop} {f : γ → Bytes}
    (h : ∀ item part, write item = .ok part ↔ ∃ c, r item c ∧ part = f c) {items : List α}
    {bytes : Bytes} :
    concatM write items = .ok bytes ↔
      ∃ cs, List.Forall₂ r items cs ∧ bytes = cs.flatMap f := by
  rw [concatM_eq_ok_iff]
  constructor
  · rintro ⟨parts, hparts, rfl⟩
    induction hparts with
    | nil => exact ⟨[], .nil, rfl⟩
    | cons hpart _ ih =>
      obtain ⟨c, hc, rfl⟩ := (h _ _).mp hpart
      obtain ⟨cs, hcs, hbytes⟩ := ih
      exact ⟨c :: cs, .cons hc hcs, by simp [hbytes]⟩
  · rintro ⟨cs, hcs, rfl⟩
    refine ⟨cs.map f, ?_, List.flatMap_def⟩
    rw [List.forall₂_map_right_iff]
    exact hcs.imp fun item c hc => (h item (f c)).mpr ⟨c, hc, rfl⟩

theorem forall₂_map_of_mem {r : α → β → Prop} {s : β → γ → Prop} {f : α → γ} {as : List α}
    {bs : List β} (h : List.Forall₂ r as bs) (himp : ∀ a ∈ as, ∀ b, r a b → s b (f a)) :
    List.Forall₂ s bs (as.map f) := by
  induction h with
  | nil => exact .nil
  | cons hab _ ih =>
    rw [List.forall_mem_cons] at himp
    exact .cons (himp.1 _ hab) (ih himp.2)

theorem exists_of_mem_left {r : α → β → Prop} {as : List α} {bs : List β} {a : α}
    (h : List.Forall₂ r as bs) (ha : a ∈ as) : ∃ b ∈ bs, r a b := by
  induction h with
  | nil => cases ha
  | cons hab _ ih =>
    rcases List.mem_cons.mp ha with rfl | ha
    · exact ⟨_, List.mem_cons_self, hab⟩
    · obtain ⟨b, hb, hr⟩ := ih ha
      exact ⟨b, List.mem_cons_of_mem _ hb, hr⟩

theorem exists_of_mem_right {r : α → β → Prop} {as : List α} {bs : List β} {b : β}
    (h : List.Forall₂ r as bs) (hb : b ∈ bs) : ∃ a ∈ as, r a b :=
  exists_of_mem_left h.flip hb

theorem exists_mem_zip_of_mem {as : List α} {bs : List β} {a : α} (hlength : as.length = bs.length)
    (ha : a ∈ as) : ∃ b, (a, b) ∈ as.zip bs := by
  have h : List.Forall₂ (fun a b => (a, b) ∈ as.zip bs) as bs :=
    List.forall₂_iff_zip.mpr ⟨hlength, fun hmem => hmem⟩
  obtain ⟨b, _, hb⟩ := exists_of_mem_left h ha
  exact ⟨b, hb⟩

/-- Of three lists that go together, the first and the third. -/
theorem forall₂_zip_left {r : α × β → γ → Prop} {as : List α} {bs : List β} {cs : List γ}
    (hlength : as.length = bs.length) (h : List.Forall₂ r (as.zip bs) cs) :
    ∀ pair ∈ as.zip cs, ∃ b, r (pair.1, b) pair.2 := by
  induction as generalizing bs cs with
  | nil => simp
  | cons a as ih =>
    cases bs with
    | nil => simp at hlength
    | cons b bs =>
      rw [List.zip_cons_cons] at h
      cases h with
      | cons hr hrest =>
        rw [List.zip_cons_cons, List.forall_mem_cons]
        exact ⟨⟨b, hr⟩, ih (by simpa using hlength) hrest⟩

theorem exists_forall₂ {r : α → β → Prop} {as : List α} (h : ∀ a ∈ as, ∃ b, r a b) :
    ∃ bs, List.Forall₂ r as bs := by
  induction as with
  | nil => exact ⟨[], .nil⟩
  | cons a as ih =>
    rw [List.forall_mem_cons] at h
    obtain ⟨b, hb⟩ := h.1
    obtain ⟨bs, hbs⟩ := ih h.2
    exact ⟨b :: bs, .cons hb hbs⟩

theorem exists_forall₂_comp_iff {r : α → β → Prop} {s : β → γ → Prop} {as : List α} {cs : List γ} :
    (∃ bs, List.Forall₂ r as bs ∧ List.Forall₂ s bs cs) ↔
      List.Forall₂ (fun a c => ∃ b, r a b ∧ s b c) as cs := by
  constructor
  · rintro ⟨bs, hr, hs⟩
    induction hr generalizing cs with
    | nil => cases hs; exact .nil
    | cons hab _ ih =>
      cases hs with
      | cons hbc hs => exact .cons ⟨_, hab, hbc⟩ (ih hs)
  · intro h
    induction h with
    | nil => exact ⟨[], .nil, .nil⟩
    | cons hac _ ih =>
      obtain ⟨b, hab, hbc⟩ := hac
      obtain ⟨bs, hr, hs⟩ := ih
      exact ⟨b :: bs, .cons hab hr, .cons hbc hs⟩

theorem length_flatMap_forall₂ {r : α → β → Prop} {f : β → Bytes} {g : α → Nat} {as : List α}
    {bs : List β} (h : List.Forall₂ r as bs)
    (hlength : ∀ a ∈ as, ∀ b, r a b → (f b).length = g a) :
    (bs.flatMap f).length = (as.map g).sum := by
  induction h with
  | nil => rfl
  | cons hab _ ih =>
    rw [List.forall_mem_cons] at hlength
    simp [hlength.1 _ hab, ih hlength.2]

theorem length_flatMap_of_length {f : α → Bytes} {items : List α} {n : Nat}
    (h : ∀ item ∈ items, (f item).length = n) : (items.flatMap f).length = items.length * n := by
  induction items with
  | nil => simp
  | cons item items ih =>
    rw [List.forall_mem_cons] at h
    simp only [List.flatMap_cons, List.length_append, h.1, ih h.2, List.length_cons]
    ring

end Items

end Framing
