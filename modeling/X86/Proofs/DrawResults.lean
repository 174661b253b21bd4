import Mathlib
import X86.Generator.Instruction

namespace X86.Generator

namespace Draw

variable {α β : Type} {P : α → Prop} {Q : β → Prop} {d : Draw α}

def Yields (P : α → Prop) (d : Draw α) : Prop := ∀ ns, P (d ns).1

lemma bind_apply (d : Draw α) (k : α → Draw β) (ns : List ℕ) :
    (d >>= k) ns = k (d ns).1 (d ns).2 := rfl

lemma yields_pure {a : α} (ha : P a) : Yields P (pure a) := fun _ => ha

lemma yields_bind {k : α → Draw β} (hd : Yields P d) (hk : ∀ a, P a → Yields Q (k a)) :
    Yields Q (d >>= k) := fun ns => hk _ (hd ns) (d ns).2

lemma yields_map {f : α → β} (hd : Yields P d) (hf : ∀ a, P a → Q (f a)) : Yields Q (f <$> d) :=
  fun ns => hf _ (hd ns)

lemma yields_trivial (d : Draw α) : Yields (fun _ => True) d := fun _ => trivial

lemma yields_pick {default : α} {as : List α} (h : as ≠ []) :
    Yields (· ∈ as) (pick default as) := by
  intro ns
  have hlt : ns.headD 0 % as.length < as.length := Nat.mod_lt _ (List.length_pos_iff.mpr h)
  change as.getD (ns.headD 0 % as.length) default ∈ as
  rw [List.getD_eq_getElem _ _ hlt]
  exact List.getElem_mem hlt

lemma yields_mapM (is : List β) (hd : Yields P d) :
    Yields (fun as => as.length = is.length ∧ ∀ a ∈ as, P a) (is.mapM fun _ => d) := by
  induction is with
  | nil => exact yields_pure ⟨rfl, by simp⟩
  | cons i is ih =>
    rw [List.mapM_cons]
    refine yields_bind hd fun a ha => yields_bind ih fun as has => yields_pure ⟨?_, ?_⟩
    · rw [List.length_cons, has.1, List.length_cons]
    · exact List.forall_mem_cons.mpr ⟨ha, has.2⟩

lemma yields_times {n : ℕ} (hd : Yields P d) :
    Yields (fun as => as.length = n ∧ ∀ a ∈ as, P a) (times n d) := by
  have h := yields_mapM (List.range n) hd
  rwa [List.length_range] at h

end Draw

open Draw

namespace ModRMOptions

variable {o : ModRMOptions}

lemma yields_drawMod (hm : o.mod = none) (hr : o.allowRegister = false) :
    o.drawMod.Yields (· ≠ 3) := by
  unfold drawMod fixedMod
  rw [hm, hr]
  exact yields_map (yields_trivial (upTo 2)) fun m _ => (Fin.castSucc_lt_last m).ne

lemma yields_drawReg (hr : o.reg = none) (he : o.extensions ≠ []) :
    o.drawReg.Yields (· ∈ o.extensions) := by
  unfold drawReg fixedReg
  rw [hr]
  match h : o.extensions with
  | [] => exact absurd h he
  | [x] => exact yields_pure (List.mem_singleton.mpr rfl)
  | x :: y :: xs => exact yields_pick (List.cons_ne_nil _ _)

lemma yields_draw (hr : o.reg = none) (hm : o.mod = none) (he : o.extensions ≠ []) :
    o.draw.Yields fun m =>
      m.reg ∈ o.extensions ∧ (o.allowRegister = false → m.isRegister = false) := by
  have hmod : o.drawMod.Yields fun m => o.allowRegister = false → m ≠ 3 :=
    fun ns h => yields_drawMod hm h ns
  unfold draw
  refine yields_bind hmod fun m hm => yields_bind (yields_drawReg hr he) fun x hx => ?_
  refine yields_bind (yields_trivial (upTo 7)) fun rm _ => yields_pure ⟨hx, fun h => ?_⟩
  simpa [ModRM.isRegister] using hm h

end ModRMOptions

structure VexPrefix.Suits (v : VexPrefix) (mode : Mode) (m : OpcodeMap) : Prop where
  map : m.vexNumber? = some v.map
  short : v.short = true → v.map = 1
  extension : mode.isLong = false → v.r = false ∧ v.x = false ∧ v.b = false
  register : mode.isLong = false → v.register.val < 8

def Lead.Suits (l : Lead) (mode : Mode) (m : OpcodeMap) : Prop :=
  match l with
  | .legacy _ rex => mode.isLong = false → rex = none
  | .vex v => v.Suits mode m

/-- A choice that the options leave open to the instructions of an opcode. -/
structure Generated.Possible (o : Options) (r : OpcodeRecord) (g : Generated) : Prop where
  record : g.record = r
  sprinkled : g.sprinkled.length ≤ sprinkles
  prefixes : ∀ b ∈ g.sprinkled, b ∈ if g.lead.isVex then vexPrefixes else legacyPrefixes
  lead : g.lead.Suits o.mode r.opcode.map
  modrm : g.modrm.isSome = r.hasModRM
  reg : ∀ m ∈ g.modrm, m.reg ∈ o.extensionsOf r
  form : ∀ m ∈ g.modrm, r.registerForm = false → m.isRegister = false
  tail : g.tail.length = tailLength

namespace Options

variable {o : Options} {r : OpcodeRecord}

lemma yields_drawRegister (ho : o.mode.isLong = false) : (o.drawRegister r).Yields (·.val < 8) := by
  unfold drawRegister
  rw [ho]
  cases r.usesVexRegister with
  | false => exact yields_pure (by decide)
  | true => exact yields_map (yields_trivial (upTo 7)) fun x _ => x.isLt

lemma yields_drawVex (slot : PrefixSlot) (hr : r.opcode.map.vexNumber?.isSome = true) :
    (o.drawVex r slot).Yields fun v => v.Suits o.mode r.opcode.map := by
  have hregister : (o.drawRegister r).Yields fun x => o.mode.isLong = false → x.val < 8 :=
    fun ns ho => yields_drawRegister ho ns
  have hextension : o.drawExtension.Yields fun b => o.mode.isLong = false → b = false := by
    intro ns ho
    rw [drawExtension, ho]
    rfl
  obtain ⟨k, hk⟩ := Option.isSome_iff_exists.mp hr
  unfold drawVex
  refine yields_bind (yields_trivial (drawLong r)) fun long _ => ?_
  refine yields_bind hregister fun register hregister => ?_
  refine yields_bind hextension fun rBit hrBit => ?_
  refine yields_bind hextension fun xBit hxBit => ?_
  refine yields_bind hextension fun bBit hbBit => ?_
  refine yields_bind (yields_trivial bool) fun wBit _ => ?_
  refine yields_bind (yields_trivial bool) fun short _ => yields_pure ?_
  constructor
  · simp [hk]
  · intro h
    simp only [Bool.and_eq_true, beq_iff_eq] at h
    exact h.1.1.1.1
  · exact fun ho => ⟨hrBit ho, hxBit ho, hbBit ho⟩
  · exact hregister

lemma yields_drawLead (slot : PrefixSlot) {vex : Bool}
    (hvex : vex = true → r.opcode.map.vexNumber?.isSome = true) :
    (o.drawLead r slot vex).Yields fun l => l.isVex = vex ∧ l.Suits o.mode r.opcode.map := by
  unfold drawLead
  cases vex with
  | true => exact yields_map (yields_drawVex slot (hvex rfl)) fun v hv => ⟨rfl, hv⟩
  | false =>
    refine yields_map (P := fun rex => o.mode.isLong = false → rex = none) ?_
      fun rex hrex => ⟨rfl, hrex⟩
    intro ns ho
    rw [drawRex, ho]
    rfl

lemma yields_drawIsVex :
    (o.drawIsVex r).Yields fun v => v = true → r.opcode.map.vexNumber?.isSome = true := by
  unfold drawIsVex
  cases hm : r.opcode.map.vexNumber?.isSome with
  | true => exact fun ns _ => rfl
  | false =>
    have hfixed : o.fixedVex r = some false := by simp [fixedVex, hm]
    rw [hfixed]
    exact yields_pure nofun

lemma yields_drawSprinkled (o : Options) (vex : Bool) :
    (o.drawSprinkled vex).Yields fun bs => bs.length ≤ sprinkles ∧
      ∀ b ∈ bs, b ∈ if vex then vexPrefixes else legacyPrefixes := by
  have hpool : (if vex then vexPrefixes else legacyPrefixes) ≠ [] := by
    cases vex <;> exact List.cons_ne_nil _ _
  have hone : (o.drawSprinkle vex).Yields fun bs => bs.length ≤ 1 ∧
      ∀ b ∈ bs, b ∈ if vex then vexPrefixes else legacyPrefixes := by
    refine yields_bind (yields_trivial (chance o.prefixRate)) fun lucky _ => ?_
    cases lucky with
    | false => exact yields_pure ⟨Nat.zero_le 1, by simp⟩
    | true =>
      refine yields_bind (yields_pick hpool) fun b hb => yields_pure ⟨le_rfl, ?_⟩
      simpa using hb
  refine yields_bind (yields_times hone) fun bss hbss => yields_pure ⟨?_, ?_⟩
  · have hle := List.sum_le_card_nsmul (bss.map List.length) 1
      (by simpa using fun bs h => (hbss.2 bs h).1)
    simpa [List.length_flatten, hbss.1] using hle
  · intro b hb
    obtain ⟨bs, hbs, hb⟩ := List.mem_flatten.mp hb
    exact (hbss.2 bs hbs).2 b hb

lemma extensionsOf_ne_nil (hr : r ∈ o.candidates) (hm : r.hasModRM = true) :
    o.extensionsOf r ≠ [] := by
  have haccepts := (List.mem_filter.mp hr).2
  simp only [accepts, hm, Bool.not_true, Bool.false_or, Bool.and_eq_true, Bool.not_eq_true',
    List.isEmpty_eq_false_iff] at haccepts
  exact haccepts.2

lemma yields_drawModRM (hr : r ∈ o.candidates) (z : Size) :
    (o.drawModRM r z).Yields fun m => m.1.isSome = r.hasModRM ∧
      ∀ x ∈ m.1, x.reg ∈ o.extensionsOf r ∧ (r.registerForm = false → x.isRegister = false) := by
  unfold drawModRM
  cases hm : r.hasModRM with
  | false => exact yields_pure ⟨rfl, nofun⟩
  | true =>
    have hdraw := @ModRMOptions.yields_draw (o.modrmOptions r z) rfl rfl (extensionsOf_ne_nil hr hm)
    refine yields_bind hdraw fun m hm => yields_bind (yields_trivial _) fun sib _ => ?_
    refine yields_pure ⟨rfl, fun x hx => ?_⟩
    obtain rfl := Option.some.inj hx
    exact hm

theorem yields_drawInstruction (hr : r ∈ o.candidates) :
    (o.drawInstruction r).Yields (Generated.Possible o r) := by
  unfold drawInstruction
  refine yields_bind yields_drawIsVex fun vex hvex => ?_
  refine yields_bind (yields_trivial (pick .plain r.slots)) fun slot _ => ?_
  refine yields_bind (o.yields_drawSprinkled vex) fun bs hbs => ?_
  refine yields_bind (yields_drawLead slot hvex) fun lead hlead => ?_
  refine yields_bind (yields_drawModRM hr _) fun m hm => ?_
  refine yields_bind (yields_times (yields_trivial byte)) fun tail htail => yields_pure ?_
  obtain ⟨rfl, hlead⟩ := hlead
  exact {
    record := rfl
    sprinkled := hbs.1
    prefixes := hbs.2
    lead := hlead
    modrm := hm.1
    reg := fun x hx => (hm.2 x hx).1
    form := fun x hx => (hm.2 x hx).2
    tail := htail.1 }

end Options

lemma generate_of_candidates {o : Options} {first : OpcodeRecord} {rest : List OpcodeRecord}
    (ho : o.check = .ok ()) (hr : o.candidates = first :: rest) (ns : List ℕ) :
    (generate o ns).1 = .ok (o.drawInstruction (pick first (first :: rest) ns).1 ns.tail).1 := by
  have htail : (pick first (first :: rest) ns).2 = ns.tail := rfl
  unfold generate
  rw [ho, hr]
  dsimp only
  rw [bind_apply, bind_apply, htail]
  rfl

end X86.Generator
