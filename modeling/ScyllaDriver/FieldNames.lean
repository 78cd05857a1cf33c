import Mathlib.Data.Finset.Insert
import Mathlib.Data.List.DropRight
import ScyllaDriver.TieBreaking

/-! `field_names`: from column names, which are any strings, to the fields of a namedtuple. -/

namespace ScyllaDriver

namespace Namedtuple

def cleanName (name : String) : String :=
  let trimmed := (name.toList.rdropWhile fun c => !(c.isAlphanum || c == '_')).dropWhile
    fun c => !c.isAlphanum
  .ofList (trimmed.map fun c => if c.isAlphanum then c else '_')

def isIdentifier (name : String) (keywords : Finset String) : Bool :=
  match name.toList with
  | [] => false
  | first :: _ => !first.isDigit && !decide (name ∈ keywords)

def appendUnderscore : Bump String where
  next name := name.push '_'
  size name := name.length
  size_lt name := by simp

/-- The state of the loop over the columns. The names given so far are those seen. -/
structure Naming where
  names : List String
  seen : Finset String
  renamed : Bool
  mem_seen : ∀ {name}, name ∈ seen ↔ name ∈ names
  nodup : names.Nodup

namespace Naming

def empty : Naming := ⟨[], ∅, false, by simp, .nil⟩

/-- What the column is called before ties are broken. -/
def candidate (keywords : Finset String) (index : Nat) (column : String) : String :=
  if isIdentifier (cleanName column) keywords then cleanName column
  else "field_" ++ toString index ++ "_"

/-- The body of the loop. -/
def push (keywords : Finset String) (naming : Naming) (column : String × Nat) : Naming :=
  let name := candidate keywords column.2 column.1
  let unique := appendUnderscore.untilNew naming.seen name
  have hnew : unique ∉ naming.seen := appendUnderscore.untilNew_notMem naming.seen name
  { names := naming.names ++ [unique]
    seen := insert unique naming.seen
    renamed := naming.renamed || !isIdentifier (cleanName column.1) keywords ||
      decide (name ∈ naming.seen)
    mem_seen := by
      intro other
      rw [Finset.mem_insert, List.mem_append, List.mem_singleton, naming.mem_seen, or_comm]
    nodup := by
      rw [naming.mem_seen] at hnew
      rw [List.nodup_append]
      exact ⟨naming.nodup, List.nodup_singleton _, by grind⟩ }

end Naming

def nameColumns (keywords : Finset String) (columns : List String) : Naming :=
  columns.zipIdx.foldl (Naming.push keywords) .empty

/-- The names, and whether a warning about them is logged. -/
def fieldNames (keywords : Finset String) (columns : List String) : List String × Bool :=
  let naming := nameColumns keywords columns
  (naming.names, naming.renamed)

theorem nameColumns_concat (keywords : Finset String) (columns : List String) (column : String) :
    nameColumns keywords (columns ++ [column]) =
      (nameColumns keywords columns).push keywords (column, columns.length) := by
  simp [nameColumns, List.zipIdx_append]

/-- A letter, and then letters, digits and underscores. -/
structure IsWord (name : String) : Prop where
  first : ∃ c rest, name.toList = c :: rest ∧ c.isAlpha = true
  chars : ∀ c ∈ name.toList, c.isAlphanum = true ∨ c = '_'

structure IsUsable (keywords : Finset String) (name : String) : Prop where
  word : IsWord name
  notKeyword : name ∉ keywords

/-- No keyword is a word that ends in an underscore. -/
def PlainKeywords (keywords : Finset String) : Prop :=
  ∀ word ∈ keywords, IsWord word → word.toList.getLast? ≠ some '_'

theorem IsWord.push {name : String} (h : IsWord name) : IsWord (name.push '_') := by
  obtain ⟨first, rest, hname, hfirst⟩ := h.first
  refine ⟨⟨first, rest ++ ['_'], by simp [hname], hfirst⟩, fun c hc => ?_⟩
  rw [String.toList_push, List.mem_append, List.mem_singleton] at hc
  rcases hc with hc | hc
  · exact h.chars c hc
  · exact .inr hc

theorem PlainKeywords.usable_push {keywords : Finset String} (h : PlainKeywords keywords)
    {name : String} (hword : IsWord name) : IsUsable keywords (name.push '_') := by
  refine ⟨hword.push, fun hmem => h _ hmem hword.push ?_⟩
  simp

theorem toList_cleanName (name : String) : (cleanName name).toList =
    ((name.toList.rdropWhile fun c => !(c.isAlphanum || c == '_')).dropWhile
      fun c => !c.isAlphanum).map fun c => if c.isAlphanum then c else '_' := by
  simp [cleanName]

theorem cleanName_chars (name : String) :
    ∀ c ∈ (cleanName name).toList, c.isAlphanum = true ∨ c = '_' := by
  intro c hc
  rw [toList_cleanName] at hc
  obtain ⟨c', -, rfl⟩ := List.mem_map.mp hc
  by_cases halnum : c'.isAlphanum = true
  · simp [halnum]
  · simp [halnum]

theorem cleanName_first {name : String} {first : Char} {rest : List Char}
    (h : (cleanName name).toList = first :: rest) : first.isAlphanum = true := by
  rw [toList_cleanName] at h
  obtain ⟨c, rest', htrimmed, rfl, -⟩ := List.map_eq_cons_iff.mp h
  have hhead := List.head?_dropWhile_not (fun c => !Char.isAlphanum c)
    (name.toList.rdropWhile fun c => !(c.isAlphanum || c == '_'))
  rw [htrimmed] at hhead
  have hc : c.isAlphanum = true := by simpa using hhead
  simp [hc]

theorem isAlpha_iff_not_isDigit {c : Char} (h : c.isAlphanum = true) :
    c.isAlpha = true ↔ c.isDigit = false := by
  constructor
  · intro halpha
    have h9 : '9'.val.toNat = 57 := rfl
    have hA : 'A'.val.toNat = 65 := rfl
    have ha : 'a'.val.toNat = 97 := rfl
    change (decide (c.val ≥ 'A'.val ∧ c.val ≤ 'Z'.val) ||
      (decide (c.val ≥ 'a'.val) && decide (c.val ≤ 'z'.val))) = true at halpha
    simp only [Bool.or_eq_true, Bool.and_eq_true, decide_eq_true_eq, ge_iff_le,
      UInt32.le_iff_toNat_le] at halpha
    simp only [Char.isDigit, Bool.and_eq_false_iff, decide_eq_false_iff_not, ge_iff_le,
      UInt32.le_iff_toNat_le]
    omega
  · intro hdigit
    simpa [Char.isAlphanum, hdigit] using h

/-- What is left to `is_identifier` after the cleaning. -/
theorem isIdentifier_cleanName_iff {keywords : Finset String} {name : String} :
    isIdentifier (cleanName name) keywords = true ↔ IsUsable keywords (cleanName name) := by
  cases hname : (cleanName name).toList with
  | nil =>
    constructor
    · intro h
      simp [isIdentifier, hname] at h
    · intro h
      obtain ⟨c, rest, hcons, -⟩ := h.word.first
      rw [hname] at hcons
      cases hcons
  | cons first rest =>
    have halnum := cleanName_first hname
    have halpha := isAlpha_iff_not_isDigit halnum
    simp only [isIdentifier, hname, Bool.and_eq_true, Bool.not_eq_true', decide_eq_false_iff_not]
    constructor
    · intro h
      exact ⟨⟨⟨first, rest, hname, halpha.mpr h.1⟩, cleanName_chars name⟩, h.2⟩
    · intro h
      obtain ⟨c, rest', hcons, hc⟩ := h.word.first
      rw [hname] at hcons
      obtain ⟨rfl, rfl⟩ := List.cons.inj hcons
      exact ⟨halpha.mp hc, h.notKeyword⟩

theorem isWord_field (index : Nat) : IsWord ("field_" ++ toString index) := by
  have hlist : ("field_" ++ toString index).toList =
      ['f', 'i', 'e', 'l', 'd', '_'] ++ Nat.toDigits 10 index := by
    simp [Nat.toList_repr]
  refine ⟨⟨'f', _, hlist, rfl⟩, fun c hc => ?_⟩
  rw [hlist, List.mem_append] at hc
  rcases hc with hc | hc
  · simp only [List.mem_cons, List.not_mem_nil, or_false] at hc
    rcases hc with rfl | rfl | rfl | rfl | rfl | rfl <;> decide
  · have hdigit := Nat.isDigit_of_mem_toDigits (by decide) (by decide) hc
    simp [Char.isAlphanum, hdigit]

theorem usable_candidate {keywords : Finset String} (h : PlainKeywords keywords) (index : Nat)
    (column : String) : IsUsable keywords (Naming.candidate keywords index column) := by
  unfold Naming.candidate
  split
  · rename_i hident
    exact isIdentifier_cleanName_iff.mp hident
  · exact h.usable_push (isWord_field index)

theorem usable_untilNew {keywords : Finset String} (h : PlainKeywords keywords)
    (seen : Finset String) {name : String} (hname : IsUsable keywords name) :
    IsUsable keywords (appendUnderscore.untilNew seen name) := by
  by_cases hmem : name ∈ seen
  · obtain ⟨before, hword, heq⟩ :=
      appendUnderscore.untilNew_eq_next (P := IsWord) (fun _ => IsWord.push) hname.word hmem
    rw [heq]
    exact h.usable_push hword
  · rwa [appendUnderscore.untilNew_eq_self_iff.mpr hmem]

section Columns

variable {keywords : Finset String}

theorem names_concat (columns : List String) (column : String) :
    (nameColumns keywords (columns ++ [column])).names = (nameColumns keywords columns).names ++
      [appendUnderscore.untilNew (nameColumns keywords columns).seen
        (Naming.candidate keywords columns.length column)] := by
  rw [nameColumns_concat]
  rfl

theorem length_names (columns : List String) :
    (nameColumns keywords columns).names.length = columns.length := by
  induction columns using List.reverseRecOn with
  | nil => rfl
  | append_singleton columns column ih => simp [names_concat, ih]

theorem usable_names (h : PlainKeywords keywords) (columns : List String) :
    ∀ name ∈ (nameColumns keywords columns).names, IsUsable keywords name := by
  induction columns using List.reverseRecOn with
  | nil => simp [nameColumns, Naming.empty]
  | append_singleton columns column ih =>
    intro name hname
    rw [names_concat, List.mem_append, List.mem_singleton] at hname
    rcases hname with hname | rfl
    · exact ih name hname
    · exact usable_untilNew h _ (usable_candidate h columns.length column)

/-- A name that nobody has yet is given as it is. -/
theorem names_kept (columns : List String) {i : Nat} {column : String}
    (hcolumn : columns[i]? = some column) (husable : IsUsable keywords (cleanName column))
    (hfirst : cleanName column ∉ (nameColumns keywords columns).names.take i) :
    (nameColumns keywords columns).names[i]? = some (cleanName column) := by
  induction columns using List.reverseRecOn with
  | nil => cases hcolumn
  | append_singleton columns last ih =>
    have hlength : (nameColumns keywords columns).names.length = columns.length :=
      length_names columns
    rw [names_concat] at hfirst ⊢
    by_cases hi : i < columns.length
    · rw [List.getElem?_append_left hi] at hcolumn
      rw [List.take_append_of_le_length (by omega)] at hfirst
      rw [List.getElem?_append_left (by omega)]
      exact ih hcolumn hfirst
    · -- The last column: what stands before it is what was seen.
      have hlast : i = columns.length := by
        have hbound := (List.getElem?_eq_some_iff.mp hcolumn).1
        rw [List.length_append, List.length_singleton] at hbound
        omega
      subst hlast
      obtain rfl : last = column := by simpa using hcolumn
      rw [← hlength, List.take_left, ← Naming.mem_seen] at hfirst
      have hcandidate : Naming.candidate keywords columns.length last = cleanName last :=
        if_pos (isIdentifier_cleanName_iff.mpr husable)
      rw [hcandidate, appendUnderscore.untilNew_eq_self_iff.mpr hfirst, ← hlength]
      simp

example : fieldNames {"class"} ["a b", "a_b"] = (["a_b", "a_b_"], true) := by decide +kernel

end Columns

/-- The checks of `collections.namedtuple` on the fields; `isidentifier` is that of `str`. -/
def acceptsFields (isidentifier : String → Bool) (keywords : Finset String)
    (names : List String) : Bool :=
  names.all (fun name => isidentifier name && !decide (name ∈ keywords) &&
    name.toList.head? != some '_') && decide names.Nodup

theorem accepts_usable {isidentifier : String → Bool} {keywords : Finset String}
    (hidentifier : ∀ name, IsWord name → isidentifier name = true) {names : List String}
    (husable : ∀ name ∈ names, IsUsable keywords name) (hnodup : names.Nodup) :
    acceptsFields isidentifier keywords names = true := by
  simp only [acceptsFields, Bool.and_eq_true, List.all_eq_true, decide_eq_true_eq]
  refine ⟨fun name hname => ⟨⟨hidentifier name (husable name hname).word, ?_⟩, ?_⟩, hnodup⟩
  · simpa using (husable name hname).notKeyword
  · obtain ⟨c, rest, hlist, hc⟩ := (husable name hname).word.first
    rw [hlist]
    have hne : c ≠ '_' := by
      rintro rfl
      exact absurd hc (by decide)
    simpa using hne

/-- What the names are good for. -/
structure NamesFit (isidentifier : String → Bool) (keywords : Finset String)
    (columns names : List String) : Prop where
  length : names.length = columns.length
  nodup : names.Nodup
  usable : ∀ name ∈ names, IsUsable keywords name
  accepted : acceptsFields isidentifier keywords names = true
  kept : ∀ i column, columns[i]? = some column → IsUsable keywords (cleanName column) →
    cleanName column ∉ names.take i → names[i]? = some (cleanName column)

theorem fieldNames_fit (isidentifier : String → Bool)
    (hidentifier : ∀ name, IsWord name → isidentifier name = true) {keywords : Finset String}
    (hkeywords : PlainKeywords keywords) (columns : List String) :
    NamesFit isidentifier keywords columns (fieldNames keywords columns).1 := by
  have husable := usable_names hkeywords columns
  have hnodup := (nameColumns keywords columns).nodup
  exact ⟨length_names columns, hnodup, husable, accepts_usable hidentifier husable hnodup,
    fun i column hcolumn hclean hfirst => names_kept columns hcolumn hclean hfirst⟩

/-- `str.isidentifier` on what is ASCII. -/
def asciiIsidentifier (name : String) : Bool :=
  match name.toList with
  | [] => false
  | first :: rest => (first.isAlpha || first == '_') && rest.all fun c => c.isAlphanum || c == '_'

theorem fieldNames_fit_keywords :
    NamesFit asciiIsidentifier {"class", "def"} ["a b", "a_b", "class", "1x"]
      (fieldNames {"class", "def"} ["a b", "a_b", "class", "1x"]).1 := by
  apply fieldNames_fit
  · intro name hname
    obtain ⟨first, rest, hlist, hfirst⟩ := hname.first
    have hchars := hname.chars
    rw [hlist] at hchars
    simp only [asciiIsidentifier, hlist, hfirst, Bool.true_or, Bool.true_and, List.all_eq_true]
    intro c hc
    simpa using hchars c (List.mem_cons_of_mem first hc)
  · intro word hword _
    rcases Finset.mem_insert.mp hword with rfl | hword
    · decide
    · obtain rfl := Finset.mem_singleton.mp hword
      decide

end Namedtuple

end ScyllaDriver
