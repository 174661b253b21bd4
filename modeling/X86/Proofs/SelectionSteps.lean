import Mathlib
import X86.Encoding

/-! The steps of a selection. Where the mode and the VEX prefix are known, a node of a tree asks for
the ModR/M byte, for a slot, or for nothing. -/

namespace X86

namespace DecodeTree

inductive Node where
  | undefined
  | leaf (e : Entry)
  | modrm (next : ModRM → DecodeTree)
  | slot (next : PrefixSlot → DecodeTree)
  | known (next : DecodeTree)

def node (mode : Mode) (vex : Option Vex) : DecodeTree → Node
  | undefined => .undefined
  | leaf e => .leaf e
  | byReg next => .modrm fun m => next m.reg
  | byForm memory register => .modrm fun m => if m.isRegister then register else memory
  | byRm next => .modrm fun m => next m.rm
  | bySlot next => .slot next
  | byMode legacy long => .known (if mode.isLong then long else legacy)
  | byVex legacy vexed => .known (if vex.isSome then vexed else legacy)
  | byVexLength short long => .known (if vex.any Vex.long then long else short)

@[elab_as_elim]
lemma node_induction (mode : Mode) (vex : Option Vex) {P : DecodeTree → Prop}
    (undefined : P undefined) (leaf : ∀ e, P (leaf e))
    (modrm : ∀ t next, t.node mode vex = .modrm next → (∀ m, P (next m)) → P t)
    (slot : ∀ next, (∀ s, P (next s)) → P (bySlot next))
    (known : ∀ t next, t.node mode vex = .known next → P next → P t) (t : DecodeTree) : P t := by
  induction t with
  | undefined => exact undefined
  | leaf e => exact leaf e
  | byReg next ih => exact modrm _ _ rfl fun m => ih m.reg
  | byRm next ih => exact modrm _ _ rfl fun m => ih m.rm
  | bySlot next ih => exact slot next ih
  | byForm a b iha ihb =>
    refine modrm _ _ rfl fun m => ?_
    split
    · exact ihb
    · exact iha
  | byMode a b iha ihb | byVex a b iha ihb | byVexLength a b iha ihb =>
    refine known _ _ rfl ?_
    split
    · exact ihb
    · exact iha

variable {mode : Mode} {vex : Option Vex} {h : Head} {t t' : DecodeTree} {next : ModRM → DecodeTree}

lemma eq_of_modrm {α : Type} {f : DecodeTree → α} {m : ModRM} (hn : t.node mode vex = .modrm next)
    (hreg : ∀ g, f (byReg g) = f (g m.reg)) (hrm : ∀ g, f (byRm g) = f (g m.rm))
    (hform : ∀ a b, f (byForm a b) = if m.isRegister then f b else f a) : f t = f (next m) := by
  cases t with
  | byReg g =>
    cases hn
    exact hreg g
  | byRm g =>
    cases hn
    exact hrm g
  | byForm a b =>
    cases hn
    exact (hform a b).trans (apply_ite f (m.isRegister = true) b a).symm
  | _ => cases hn

lemma eq_of_known {α : Type} {f : DecodeTree → α} (hn : t.node mode vex = .known t')
    (hmode : ∀ a b, f (byMode a b) = if mode.isLong then f b else f a)
    (hvex : ∀ a b, f (byVex a b) = if vex.isSome then f b else f a)
    (hlength : ∀ a b, f (byVexLength a b) = if vex.any Vex.long then f b else f a) :
    f t = f t' := by
  cases t with
  | byMode a b =>
    cases hn
    exact (hmode a b).trans (apply_ite f _ b a).symm
  | byVex a b =>
    cases hn
    exact (hvex a b).trans (apply_ite f _ b a).symm
  | byVexLength a b =>
    cases hn
    exact (hlength a b).trans (apply_ite f _ b a).symm
  | _ => cases hn

lemma select_modrm (hn : t.node mode h.vex = .modrm next) (m : Option ModRM)
    (slot : Option PrefixSlot) : t.select mode h m slot =
      ModRM.scan m fun x => (next x).select mode h (some x) slot := by
  cases t with
  | byReg _ | byRm _ => cases hn; rfl
  | byForm a b =>
    cases hn
    rw [select]
    congr
    funext x
    exact (apply_ite (fun t => t.select mode h (some x) slot) (x.isRegister = true) b a).symm
  | _ => cases hn

lemma select_known (hn : t.node mode h.vex = .known t') (m : Option ModRM)
    (slot : Option PrefixSlot) : t.select mode h m slot = t'.select mode h m slot :=
  eq_of_known (f := fun t => t.select mode h m slot) hn (fun _ _ => rfl) (fun _ _ => rfl)
    fun _ _ => rfl

end DecodeTree

end X86
