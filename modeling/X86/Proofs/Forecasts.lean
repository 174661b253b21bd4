import Mathlib
import X86.Generator.Forecast
import X86.Proofs.DrawResults

/-! What is forecast of the instructions of an opcode holds of each that is drawn. -/

namespace X86.Generator

open Draw

variable {α β : Type} [DecidableEq α] [DecidableEq β]

lemma meets_none (a : α) : meets none a = true := rfl

lemma meets_some (a : α) : meets (some a) a = true := by simp [meets]

lemma meets_map (f : α → β) {fixed : Option α} {a : α} (h : meets fixed a = true) :
    meets (fixed.map f) (f a) = true := by
  cases fixed with
  | none => exact meets_none _
  | some b =>
    obtain rfl : b = a := by simpa [meets] using h
    exact meets_some _

lemma yields_fixed (fixed : Option α) (d : Draw α) :
    (fixed.elim d pure).Yields fun a => meets fixed a = true := by
  cases fixed with
  | none => exact fun ns => meets_none _
  | some a => exact yields_pure (meets_some a)

lemma Forecast.meets_isVex {f : Forecast} {l : Lead} (h : f.admitsLead l = true) :
    meets f.vex l.isVex = true := by
  cases l with
  | legacy slot rex => exact (Bool.and_eq_true_iff.mp h).1
  | vex v => exact (Bool.and_eq_true_iff.mp h).1

namespace ModRMOptions

lemma yields_drawMod_meets (o : ModRMOptions) :
    o.drawMod.Yields fun m => meets o.fixedForm (m == 3) = true := by
  rw [drawMod, fixedForm]
  cases o.fixedMod with
  | some m => exact yields_pure (meets_some _)
  | none =>
    cases o.allowRegister with
    | true => exact fun ns => meets_none _
    | false =>
      refine yields_map (yields_trivial (upTo 2)) fun m _ => ?_
      simpa [meets] using (Fin.castSucc_lt_last m).ne

lemma yields_drawReg_meets (o : ModRMOptions) :
    o.drawReg.Yields fun x => meets o.fixedReg x = true :=
  yields_fixed _ _

lemma yields_draw_meets (o : ModRMOptions) :
    o.draw.Yields fun m =>
      meets o.fixedReg m.reg = true ∧ meets o.fixedForm m.isRegister = true := by
  refine yields_bind o.yields_drawMod_meets fun mod hmod => ?_
  refine yields_bind o.yields_drawReg_meets fun reg hreg => ?_
  exact yields_bind (yields_trivial (upTo 7)) fun rm _ => yields_pure ⟨hreg, hmod⟩

end ModRMOptions

namespace Options

variable {o : Options} {r : OpcodeRecord} {slot : PrefixSlot} {vex : Bool} {n : ℕ}

lemma yields_pick_fixedSlot (r : OpcodeRecord) :
    (pick .plain r.slots).Yields fun s => meets (fixedSlot r) s = true := by
  rw [fixedSlot]
  match hs : r.slots with
  | [] => exact fun ns => meets_none _
  | [s] =>
    intro ns
    have hmem := @yields_pick _ .plain _ (List.cons_ne_nil s []) ns
    rw [List.mem_singleton.mp hmem]
    exact meets_some s
  | s :: s' :: ss => exact fun ns => meets_none _

lemma yields_drawSprinkle_length (hn : o.fixedSprinkles = some n) :
    (o.drawSprinkle vex).Yields fun bs => sprinkles * bs.length = n := by
  intro ns
  rw [fixedSprinkles] at hn
  rw [drawSprinkle, chance]
  split_ifs at hn with hzero hone
  · obtain rfl := Option.some.inj hn
    simp only [hzero]
    rfl
  · obtain rfl := Option.some.inj hn
    simp only [hzero, hone]
    rfl

lemma yields_drawSprinkled_length (hn : o.fixedSprinkles = some n) :
    (o.drawSprinkled vex).Yields fun bs => bs.length = n := by
  refine yields_bind (yields_times (yields_drawSprinkle_length hn)) fun bss hbss => yields_pure ?_
  obtain ⟨hlength, hall⟩ := hbss
  match bss, hlength with
  | [a, b, c], _ =>
    simp only [List.mem_cons, List.not_mem_nil, or_false, forall_eq_or_imp, forall_eq,
      sprinkles] at hall
    simp only [List.flatten_cons, List.flatten_nil, List.length_append, List.length_nil]
    omega

lemma yields_drawVex_admits (hslot : meets (fixedSlot r) slot = true)
    (hm : r.opcode.map.vexNumber?.isSome = true) :
    (o.drawVex r slot).Yields fun v => (o.forecastVex r).admits v = true := by
  have hlong : (drawLong r).Yields fun b => meets (o.forecastVex r).long b = true := by
    rw [drawLong, forecastVex]
    cases r.shortVex with
    | true => exact yields_pure rfl
    | false => exact fun ns => meets_none _
  have hregister :
      (o.drawRegister r).Yields fun x => meets (o.forecastVex r).register x = true := by
    rw [drawRegister, forecastVex]
    cases r.usesVexRegister with
    | true => exact fun ns => meets_none _
    | false => exact yields_pure rfl
  have hextension : o.drawExtension.Yields fun b => meets (o.forecastVex r).r b = true := by
    rw [drawExtension, forecastVex]
    cases o.mode.isLong with
    | true => exact fun ns => meets_none _
    | false => exact yields_pure rfl
  refine yields_bind hlong fun long hlong => ?_
  refine yields_bind hregister fun register hregister => ?_
  refine yields_bind hextension fun rBit hrBit => ?_
  refine yields_bind (yields_trivial o.drawExtension) fun xBit _ => ?_
  refine yields_bind (yields_trivial o.drawExtension) fun bBit _ => ?_
  refine yields_bind (yields_trivial bool) fun wBit _ => ?_
  refine yields_bind (yields_trivial bool) fun short _ => yields_pure ?_
  -- only the map 0F has a short form
  have hmap : meets (o.forecastVex r).map (r.opcode.map.vexNumber?.getD 1) = true ∧
      meets (o.forecastVex r).lead (if r.opcode.map.vexNumber?.getD 1 == 1 && !xBit && !bBit &&
        !wBit && short then 0xC5 else 0xC4) = true := by
    rw [forecastVex]
    cases h : r.opcode.map with
    | primary => simp [h, OpcodeMap.vexNumber?] at hm
    | map0F => exact ⟨meets_none _, meets_none _⟩
    | map0F38 => exact ⟨rfl, rfl⟩
    | map0F3A => exact ⟨rfl, rfl⟩
  simp only [VexForecast.admits, Bool.and_eq_true]
  exact ⟨⟨⟨⟨⟨hmap.2, hmap.1⟩, hslot⟩, hlong⟩, hregister⟩, hrBit⟩

lemma yields_drawIsVex_meets (o : Options) (r : OpcodeRecord) :
    (o.drawIsVex r).Yields fun v => meets (o.fixedVex r) v = true :=
  yields_fixed _ _

lemma eq_of_fixedSlot {s : PrefixSlot} (hslot : meets (fixedSlot r) slot = true)
    (hs : fixedSlot r = some s) : slot = s := by
  rw [hs] at hslot
  exact (by simpa [meets] using hslot : s = slot).symm

lemma yields_drawLead_admits (hslot : meets (fixedSlot r) slot = true)
    (hvex : meets (o.fixedVex r) vex = true)
    (hm : vex = true → r.opcode.map.vexNumber?.isSome = true) :
    (o.drawLead r slot vex).Yields fun l => (o.forecast r).admitsLead l = true ∧
      (r.vex = false → o.mode.isLong = false → l.bytes = slot.bytes) := by
  rw [drawLead]
  cases vex with
  | true =>
    refine yields_map (yields_drawVex_admits hslot (hm rfl)) fun v hv => ⟨?_, fun hplain => ?_⟩
    · exact Bool.and_eq_true_iff.mpr ⟨hvex, hv⟩
    · simp [fixedVex, hplain, meets] at hvex
  | false =>
    have hrex : o.drawRex.Yields fun rex => o.mode.isLong = false → rex = none := by
      intro ns ho
      rw [drawRex, ho]
      rfl
    refine yields_map hrex fun rex hrex => ⟨Bool.and_eq_true_iff.mpr ⟨hvex, ?_⟩, fun _ ho => ?_⟩
    · unfold forecast
      cases o.fixedSprinkles with
      | none => exact meets_none _
      | some n =>
        cases hs : fixedSlot r with
        | none => exact meets_none _
        | some s => exact eq_of_fixedSlot hslot hs ▸ meets_some _
    · rw [hrex ho]
      exact List.append_nil _

lemma meets_prefixes {bs : List UInt8} {l : Lead} (hslot : meets (fixedSlot r) slot = true)
    (hbs : ∀ n ∈ o.fixedSprinkles, bs.length = n)
    (hl : r.vex = false → o.mode.isLong = false → l.bytes = slot.bytes) :
    meets (o.forecast r).prefixBytes (bs ++ l.bytes) = true ∧
      meets (o.forecast r).prefixLength (bs ++ l.bytes).length = true := by
  rw [forecast]
  cases hplain : !r.vex && !o.mode.isLong with
  | false => exact ⟨meets_none _, meets_none _⟩
  | true =>
    rw [Bool.and_eq_true, Bool.not_eq_true', Bool.not_eq_true'] at hplain
    rw [hl hplain.1 hplain.2]
    cases hn : o.fixedSprinkles with
    | none => exact ⟨meets_none _, meets_none _⟩
    | some n =>
      cases hs : fixedSlot r with
      | none => cases n <;> exact ⟨meets_none _, meets_none _⟩
      | some s =>
        obtain rfl := eq_of_fixedSlot hslot hs
        obtain rfl := hbs n hn
        rw [List.length_append]
        cases bs with
        | nil => exact ⟨meets_some _, meets_some _⟩
        | cons b bs => exact ⟨meets_none _, meets_some _⟩

lemma yields_drawModRM_admits (o : Options) (r : OpcodeRecord) (z : Size) :
    (o.drawModRM r z).Yields fun m => ∀ x ∈ m.1, meets (o.forecast r).reg x.reg = true ∧
      meets (o.forecast r).registerForm x.isRegister = true := by
  rw [drawModRM, forecast]
  cases r.hasModRM with
  | false => exact yields_pure nofun
  | true =>
    refine yields_bind (o.modrmOptions r z).yields_draw_meets fun m hm => ?_
    refine yields_bind (yields_trivial _) fun sib _ => yields_pure fun x hx => ?_
    obtain rfl := Option.some.inj hx
    exact hm

theorem yields_forecast (o : Options) (r : OpcodeRecord) :
    (o.drawInstruction r).Yields fun g => (o.forecast r).admits g = true := by
  have hisVex : (o.drawIsVex r).Yields fun v => meets (o.fixedVex r) v = true ∧
      (v = true → r.opcode.map.vexNumber?.isSome = true) :=
    fun ns => ⟨o.yields_drawIsVex_meets r ns, yields_drawIsVex ns⟩
  have hsprinkled (vex : Bool) : (o.drawSprinkled vex).Yields fun bs =>
      ∀ n ∈ o.fixedSprinkles, bs.length = n :=
    fun ns n hn => yields_drawSprinkled_length hn ns
  refine yields_bind hisVex fun vex hvex => ?_
  refine yields_bind (yields_pick_fixedSlot r) fun slot hslot => ?_
  refine yields_bind (hsprinkled vex) fun bs hbs => ?_
  refine yields_bind (yields_drawLead_admits hslot hvex.1 hvex.2) fun l hl => ?_
  refine yields_bind (o.yields_drawModRM_admits r _) fun m hm => ?_
  refine yields_bind (yields_trivial (times tailLength byte)) fun tail _ => yields_pure ?_
  have hprefixes := meets_prefixes hslot hbs hl.2
  have hopcode := meets_map (fun v => if v then [r.opcode.byte] else r.opcode.bytes)
    (Forecast.meets_isVex hl.1)
  simp only [Forecast.admits, Bool.and_eq_true, Option.all_eq_true]
  exact ⟨⟨⟨⟨hl.1, hopcode⟩, hprefixes.1⟩, hprefixes.2⟩, hm⟩

/-- Where the options leave one opcode, every seed meets its forecast. -/
theorem admits_of_seed {seed count : ℕ} {g : Generated} (hr : o.candidates = [r])
    (hg : (generate o (numbers seed count)).1 = .ok g) : (o.forecast r).admits g = true := by
  cases ho : o.check with
  | error e =>
    rw [generate] at hg
    rw [ho] at hg
    cases hg
  | ok =>
    have hpick : (pick r [r] (numbers seed count)).1 = r :=
      List.mem_singleton.mp (yields_pick (List.cons_ne_nil r []) _)
    rw [generate_of_candidates ho hr, hpick] at hg
    exact Except.ok.inj hg ▸ o.yields_forecast r _

end Options

end X86.Generator
