import Mathlib
import X86.Image

/-! Images of ELF files. All code of an image lies in its file, an image is there unless some code
does not, and each address has the name of the first function that is said to be there. -/

namespace X86

section

variable {ε α β : Type} {f : α → Except ε β} {x : α} {xs : List α} {ys : List β} {err : ε}

private lemma mapM_cons_eq_ok : (x :: xs).mapM f = .ok ys ↔
    ∃ z zs, f x = .ok z ∧ xs.mapM f = .ok zs ∧ ys = z :: zs := by
  rw [List.mapM_cons]
  cases f x with
  | error err => simp [bind, Except.bind]
  | ok z => cases xs.mapM f <;> simp [bind, Except.bind, pure, Except.pure, eq_comm]

private lemma mapM_cons_eq_error : (x :: xs).mapM f = .error err ↔
    f x = .error err ∨ ∃ z, f x = .ok z ∧ xs.mapM f = .error err := by
  rw [List.mapM_cons]
  cases f x with
  | error err => simp [bind, Except.bind]
  | ok z => cases xs.mapM f <;> simp [bind, Except.bind, pure, Except.pure]

private lemma forall₂_of_mapM (h : xs.mapM f = .ok ys) :
    List.Forall₂ (fun x y => f x = .ok y) xs ys := by
  induction xs generalizing ys with
  | nil =>
    obtain rfl : [] = ys := Except.ok.inj h
    exact .nil
  | cons x xs ih =>
    obtain ⟨z, zs, hx, hxs, rfl⟩ := mapM_cons_eq_ok.mp h
    exact .cons hx (ih hxs)

private lemma mapM_eq_error : xs.mapM f = .error err ↔ ∃ before y after,
    xs = before ++ y :: after ∧ (∀ z ∈ before, ∃ b, f z = .ok b) ∧ f y = .error err := by
  induction xs with
  | nil => simp [pure, Except.pure]
  | cons x xs ih =>
    rw [mapM_cons_eq_error, ih]
    constructor
    · rintro (hx | ⟨b, hx, before, y, after, rfl, hbefore, hy⟩)
      · exact ⟨[], x, xs, rfl, List.forall_mem_nil _, hx⟩
      · exact ⟨x :: before, y, after, rfl, List.forall_mem_cons.mpr ⟨⟨b, hx⟩, hbefore⟩, hy⟩
    · rintro ⟨before, y, after, h, hbefore, hy⟩
      cases before with
      | nil =>
        obtain ⟨rfl, rfl⟩ := List.cons.inj h
        exact .inl hy
      | cons z before =>
        obtain ⟨rfl, rfl⟩ := List.cons.inj h
        obtain ⟨⟨b, hz⟩, hbefore⟩ := List.forall_mem_cons.mp hbefore
        exact .inr ⟨b, hz, before, y, after, rfl, hbefore, hy⟩

end

private lemma lookup_filterMap_eq_some {α : Type} {f : α → Option (ℕ × String)} {xs : List α}
    {key : ℕ} {value : String} : (xs.filterMap f).lookup key = some value ↔
      ∃ before x after, xs = before ++ x :: after ∧ f x = some (key, value) ∧
        ∀ y ∈ before, ∀ v, f y ≠ some (key, v) := by
  rw [List.lookup_eq_some_iff]
  constructor
  · rintro ⟨l, r, h, hl⟩
    obtain ⟨before, rest, rfl, hbefore, hrest⟩ := List.filterMap_eq_append_iff.mp h
    obtain ⟨skipped, x, after, rfl, hskipped, hx, -⟩ := List.filterMap_eq_cons_iff.mp hrest
    refine ⟨before ++ skipped, x, after, (List.append_assoc ..).symm, hx, ?_⟩
    rintro y hy v hyv
    rcases List.mem_append.mp hy with hy | hy
    · have := hl _ (hbefore ▸ List.mem_filterMap.mpr ⟨y, hy, hyv⟩)
      simp at this
    · cases (hskipped y hy).symm.trans hyv
  · rintro ⟨before, x, after, rfl, hx, hbefore⟩
    refine ⟨before.filterMap f, after.filterMap f, ?_, ?_⟩
    · rw [List.filterMap_append, List.filterMap_cons_some hx]
    · rintro ⟨k, v⟩ hp
      obtain ⟨y, hy, hyv⟩ := List.mem_filterMap.mp hp
      rw [bne_iff_ne]
      rintro rfl
      exact hbefore y hy v hyv

namespace Elf

variable {nameAt : StringTable → ℕ → Option String} {e : Elf} {file : List UInt8}
  {s : SectionHeader} {c : CodeSection} {err : ImageError}

namespace SectionHeader

structure HoldsCode (s : SectionHeader) : Prop where
  kind : s.kind = progbits
  executable : s.flags.testBit 2 = true
  nonempty : 0 < s.size

def Overruns (file : List UInt8) (s : SectionHeader) : Prop :=
  2 ^ 64 ≤ s.offset + s.size ∨ file.length < s.offset + s.size

lemma isCode_iff (s : SectionHeader) : s.isCode = true ↔ s.HoldsCode := by
  have hflag : s.flags &&& executable ≠ 0 ↔ s.flags.testBit 2 = true := by
    change s.flags &&& 2 ^ 2 ≠ 0 ↔ _
    rw [Nat.and_two_pow]
    cases s.flags.testBit 2 <;> simp
  rw [isCode, Bool.and_eq_true, Bool.and_eq_true, beq_iff_eq, bne_iff_ne, bne_iff_ne, hflag]
  exact ⟨fun ⟨⟨hk, he⟩, hn⟩ => ⟨hk, he, Nat.pos_of_ne_zero hn⟩,
    fun h => ⟨⟨h.kind, h.executable⟩, h.nonempty.ne'⟩⟩

instance (s : SectionHeader) : Decidable s.HoldsCode := decidable_of_iff _ s.isCode_iff

lemma overruns_iff (hfile : file.length < 2 ^ 64) :
    s.Overruns file ↔ file.length < s.offset + s.size :=
  ⟨fun h => h.elim hfile.trans_le id, .inr⟩

end SectionHeader

def codeHeaders (e : Elf) : List SectionHeader := e.sections.filter (·.HoldsCode)

lemma mem_codeHeaders : s ∈ e.codeHeaders ↔ s ∈ e.sections ∧ s.HoldsCode := by
  rw [codeHeaders, List.mem_filter, decide_eq_true_eq]

structure Loads (nameAt : StringTable → ℕ → Option String) (e : Elf) (file : List UInt8)
    (s : SectionHeader) (c : CodeSection) : Prop where
  name : c.name = e.sectionName nameAt s
  address : c.address = s.address
  size : c.data.length = s.size
  data : ∃ before after, file = before ++ c.data ++ after ∧ before.length = s.offset

lemma Loads.fits (h : e.Loads nameAt file s c) : s.offset + s.size ≤ file.length := by
  obtain ⟨before, after, rfl, hbefore⟩ := h.data
  rw [List.length_append, List.length_append, hbefore, h.size]
  omega

lemma codeSection_eq_ok : e.codeSection nameAt file s = .ok c ↔ e.Loads nameAt file s c := by
  rw [codeSection]
  constructor
  · intro h
    split at h
    · rename_i hend
      cases h
      have hdrop : s.size ≤ (file.drop s.offset).length := by
        rw [List.length_drop]
        omega
      refine ⟨rfl, rfl, List.length_take_of_le hdrop, file.take s.offset,
        (file.drop s.offset).drop s.size, ?_, List.length_take_of_le (by omega)⟩
      rw [List.append_assoc, List.take_append_drop, List.take_append_drop]
    · cases h
  · intro h
    have hend := h.fits
    obtain ⟨hname, haddress, hsize, before, after, rfl, hbefore⟩ := h
    have hdata : ((before ++ c.data ++ after).drop s.offset).take s.size = c.data := by
      rw [List.append_assoc, ← hbefore, List.drop_left, ← hsize, List.take_left]
    rw [if_pos hend, hdata, ← hname, ← haddress]

lemma codeSection_eq_error : e.codeSection nameAt file s = .error err ↔
    file.length < s.offset + s.size ∧ err = .sectionPastEnd (e.sectionName nameAt s) := by
  rw [codeSection]
  split
  · simp only [reduceCtorEq, false_iff, not_and]
    omega
  · rw [Except.error.injEq, eq_comm]
    exact ⟨fun h => ⟨by omega, h⟩, And.right⟩

lemma exists_codeSection_eq_ok :
    (∃ c, e.codeSection nameAt file s = .ok c) ↔ s.offset + s.size ≤ file.length := by
  rw [codeSection]
  split <;> simp_all

structure Symbol.Names (nameAt : StringTable → ℕ → Option String) (names : StringTable)
    (s : Symbol) (address : ℕ) (name : String) : Prop where
  kind : s.info % 16 = function
  value : s.value = address
  address_ne_zero : address ≠ 0
  named : nameAt names s.name = some name
  name_ne_empty : name ≠ ""

lemma Symbol.functionName?_eq_some {names : StringTable} {s : Symbol} {address : ℕ}
    {name : String} :
    s.functionName? nameAt names = some (address, name) ↔ s.Names nameAt names address name := by
  rw [functionName?]
  constructor
  · intro h
    split at h
    · rename_i hkind
      split at h
      · rename_i n hn
        split at h
        · cases h
        · rename_i hempty
          obtain ⟨rfl, rfl⟩ := Prod.mk.inj (Option.some.inj h)
          exact ⟨hkind.1, rfl, hkind.2, hn, by simpa using hempty⟩
      · cases h
    · cases h
  · rintro ⟨hkind, rfl, hvalue, hname, hempty⟩
    rw [if_pos ⟨hkind, hvalue⟩, hname]
    exact if_neg (by simpa using hempty)

def symbols (e : Elf) : List (StringTable × Symbol) :=
  e.static.symbols.map (e.static.names, ·) ++ e.dynamic.symbols.map (e.dynamic.names, ·)

lemma functions_eq (nameAt : StringTable → ℕ → Option String) (e : Elf) :
    e.static.functions nameAt ++ e.dynamic.functions nameAt =
      e.symbols.filterMap fun x => x.2.functionName? nameAt x.1 := by
  rw [symbols, List.filterMap_append, List.filterMap_map, List.filterMap_map]
  rfl

/-- The first symbol that says which function is at an address gives it this name. -/
def FirstNames (nameAt : StringTable → ℕ → Option String) (e : Elf) (address : ℕ)
    (name : String) : Prop :=
  ∃ before names s after, e.symbols = before ++ (names, s) :: after ∧
    s.Names nameAt names address name ∧ ∀ x ∈ before, ∀ n, ¬ x.2.Names nameAt x.1 address n

lemma lookup_functions {address : ℕ} {name : String} :
    (e.static.functions nameAt ++ e.dynamic.functions nameAt).lookup address = some name ↔
      e.FirstNames nameAt address name := by
  rw [functions_eq, lookup_filterMap_eq_some]
  simp only [Symbol.functionName?_eq_some, ne_eq]
  exact ⟨fun ⟨before, x, after, h⟩ => ⟨before, x.1, x.2, after, h⟩,
    fun ⟨before, names, s, after, h⟩ => ⟨before, (names, s), after, h⟩⟩

lemma exists_firstNames {address : ℕ} :
    (∃ name, e.FirstNames nameAt address name) ↔
      ∃ x ∈ e.symbols, ∃ name, x.2.Names nameAt x.1 address name := by
  simp only [← lookup_functions, ← Option.isSome_iff_exists, List.lookup_isSome_iff, functions_eq]
  simp only [List.mem_filterMap, ← Symbol.functionName?_eq_some]
  constructor
  · rintro ⟨⟨key, name⟩, ⟨x, hx, hname⟩, hkey⟩
    obtain rfl : address = key := by simpa using hkey
    exact ⟨x, hx, name, hname⟩
  · rintro ⟨x, hx, name, hname⟩
    exact ⟨(address, name), ⟨x, hx, hname⟩, by simp⟩

end Elf

namespace Image

open Elf

variable {nameAt : StringTable → ℕ → Option String} {e : Elf} {file : List UInt8} {image : Image}
  {err : ImageError}

structure Shows (nameAt : StringTable → ℕ → Option String) (image : Image) (e : Elf)
    (file : List UInt8) : Prop where
  long : image.mode = some .bits64 ↔ e.wide = true
  legacy : image.mode = some .bits32 ↔ e.wide = false
  sections : List.Forall₂ (e.Loads nameAt file) e.codeHeaders image.sections
  isNamed : ∀ address, (∃ name, image.nameAt? address = some name) ↔
    ∃ x ∈ e.symbols, ∃ name, x.2.Names nameAt x.1 address name
  named : ∀ address name, image.nameAt? address = some name ↔ e.FirstNames nameAt address name

lemma filter_isCode (e : Elf) : e.sections.filter SectionHeader.isCode = e.codeHeaders :=
  List.filter_congr fun s _ => by
    rw [Bool.eq_iff_iff, SectionHeader.isCode_iff, decide_eq_true_eq]

lemma shows_of_ofElf (h : ofElf nameAt e file = .ok image) : image.Shows nameAt e file := by
  rw [ofElf, filter_isCode] at h
  split at h
  · rename_i sections hsections
    cases h
    have hnamed (address : ℕ) (name : String) :
        (e.static.functions nameAt ++ e.dynamic.functions nameAt).lookup address = some name ↔
          e.FirstNames nameAt address name := lookup_functions
    exact {
      long := by cases e.wide <;> simp
      legacy := by cases e.wide <;> simp
      sections := (forall₂_of_mapM hsections).imp fun _ _ => codeSection_eq_ok.mp
      isNamed := fun address => (exists_congr (hnamed address)).trans exists_firstNames
      named := hnamed }
  · cases h

lemma ofElf_eq_error : ofElf nameAt e file = .error err ↔
    ∃ before s after, e.codeHeaders = before ++ s :: after ∧
      (∀ t ∈ before, t.offset + t.size ≤ file.length) ∧
      file.length < s.offset + s.size ∧ err = .sectionPastEnd (e.sectionName nameAt s) := by
  have hmapM : ofElf nameAt e file = .error err ↔
      e.codeHeaders.mapM (e.codeSection nameAt file) = .error err := by
    rw [ofElf, filter_isCode]
    cases e.codeHeaders.mapM (e.codeSection nameAt file) <;> simp
  simp only [hmapM, mapM_eq_error, exists_codeSection_eq_ok, codeSection_eq_error]

/-- An ELF file is loaded unless a section with instructions ends behind the file. The first such
section is the failure, and nothing is loaded then; otherwise the image has the bytes of all
sections with instructions, and the first name of each function. -/
theorem contract_of_ofElf (hfile : file.length < 2 ^ 64) :
    ((∃ err, ofElf nameAt e file = .error err) ↔ ∃ s ∈ e.sections, s.HoldsCode ∧ s.Overruns file) ∧
      (∀ err, ofElf nameAt e file = .error err → ∃ before s after,
        e.codeHeaders = before ++ s :: after ∧ (∀ t ∈ before, ¬ t.Overruns file) ∧
          s.Overruns file ∧ err = .sectionPastEnd (e.sectionName nameAt s)) ∧
      ∀ image, ofElf nameAt e file = .ok image → image.Shows nameAt e file := by
  have herror (err : ImageError) (h : ofElf nameAt e file = .error err) : ∃ before s after,
      e.codeHeaders = before ++ s :: after ∧ (∀ t ∈ before, ¬ t.Overruns file) ∧
        s.Overruns file ∧ err = .sectionPastEnd (e.sectionName nameAt s) := by
    obtain ⟨before, s, after, hheaders, hbefore, hs, herr⟩ := ofElf_eq_error.mp h
    refine ⟨before, s, after, hheaders, fun t ht => ?_, .inr hs, herr⟩
    rw [SectionHeader.overruns_iff hfile]
    exact Nat.not_lt.mpr (hbefore t ht)
  refine ⟨⟨?_, ?_⟩, herror, fun _ => shows_of_ofElf⟩
  · rintro ⟨err, h⟩
    obtain ⟨before, s, after, hheaders, -, hs, -⟩ := herror err h
    have hmem : s ∈ e.codeHeaders := by simp [hheaders]
    obtain ⟨hsections, hcode⟩ := mem_codeHeaders.mp hmem
    exact ⟨s, hsections, hcode, hs⟩
  · rintro ⟨s, hsections, hcode, hs⟩
    -- what has been loaded has the bytes of every section, so none overruns the file
    cases h : ofElf nameAt e file with
    | error err => exact ⟨err, rfl⟩
    | ok image =>
      have hfits : ∀ t ∈ e.codeHeaders, t.offset + t.size ≤ file.length :=
        ((List.forall₂_and_left _ _).mp
          ((shows_of_ofElf h).sections.imp fun _ _ hc => ⟨hc.fits, hc⟩)).1
      rw [SectionHeader.overruns_iff hfile] at hs
      exact absurd hs (Nat.not_lt.mpr (hfits s (mem_codeHeaders.mpr ⟨hsections, hcode⟩)))

def twiceNamed : Elf where
  wide := true
  sections := [⟨0, 1, 2, 0x2000, 0, 9, 0, 0⟩, ⟨1, 1, 6, 0x1000, 1, 2, 0, 0⟩]
  sectionNames := ⟨['\x00', 'c', '\x00']⟩
  static := ⟨[⟨0, 2, 0x1000⟩, ⟨1, 2, 0x1000⟩, ⟨3, 1, 0x1001⟩], ⟨['\x00', 'f', '\x00', 'v', '\x00']⟩⟩
  dynamic := ⟨[⟨1, 18, 0x1000⟩], ⟨['\x00', 'g', '\x00']⟩⟩

theorem contract_of_ofElf_twiceNamed : [0x7F, 0x90, 0xC3, 0x00].length < 2 ^ 64 ∧
    ∃ image, ofElf StringTable.name? twiceNamed [0x7F, 0x90, 0xC3, 0x00] = .ok image ∧
      image.Shows StringTable.name? twiceNamed [0x7F, 0x90, 0xC3, 0x00] ∧
      image = ⟨some .bits64, [⟨"c", 0x1000, [0x90, 0xC3]⟩], [(0x1000, "f"), (0x1000, "g")]⟩ :=
  ⟨by decide, _, rfl, (contract_of_ofElf (by decide)).2.2 _ rfl, rfl⟩

end Image

end X86
