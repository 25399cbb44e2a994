import TypedTree.Text.Block

/-!
# Nested blocks

Operations that are carried out on a block of their own, which is then appended to another block,
write the lines that they write to the other block directly. This takes operations that never go
below the level they start at: on a block of its own that level is the first, where dedenting ends.
-/

namespace TypedTree.Text

/-! ### How far operations rise -/

namespace BlockOp

/-- What is left of a height some steps below, if it is that high. -/
def heightBelow? (height steps : Nat) : Option Nat :=
  if steps ≤ height then some (height - steps) else none

mutual

/-- How far above the level at the start of a run a block is behind an operation, if it was `height`
above it. There is no such height if the operation goes below that level. -/
def heightAfter? (height : Nat) : BlockOp → Option Nat
  | .indent steps => some (height + steps)
  | .dedent steps => heightBelow? height steps
  | .indented ops => (heightAfterAll? (height + 1) ops).bind (heightBelow? · 1)
  | _ => some height
termination_by structural op => op

def heightAfterAll? (height : Nat) : List BlockOp → Option Nat
  | [] => some height
  | op :: ops => (op.heightAfter? height).bind (heightAfterAll? · ops)
termination_by structural ops => ops

end

/-- Carried out in order, the operations never go below the level that they start at. -/
def StayAboveStart (ops : List BlockOp) : Prop :=
  (heightAfterAll? 0 ops).isSome

instance (ops : List BlockOp) : Decidable (StayAboveStart ops) :=
  inferInstanceAs (Decidable ((heightAfterAll? 0 ops).isSome = true))

theorem heightBelow?_eq_some_iff {height steps rest : Nat} :
    heightBelow? height steps = some rest ↔ rest + steps = height := by
  simp only [heightBelow?, Option.ite_none_right_eq_some, Option.some.injEq]
  omega

/-- The operations of a nested scope are reached through membership. -/
theorem induction {motive : BlockOp → Prop} (append : ∀ line, motive (.append line))
    (appendText : ∀ text, motive (.appendText text)) (extend : ∀ lines, motive (.extend lines))
    (extendDedented : ∀ lines, motive (.extendDedented lines))
    (emptyLines : ∀ count, motive (.emptyLines count)) (indent : ∀ steps, motive (.indent steps))
    (dedent : ∀ steps, motive (.dedent steps))
    (indented : ∀ ops, (∀ op ∈ ops, motive op) → motive (.indented ops))
    (block : ∀ start ops, motive (.block start ops)) (op : BlockOp) : motive op := by
  refine @BlockOp.rec motive (fun ops => ∀ op ∈ ops, motive op) append appendText extend
    extendDedented emptyLines indent dedent indented (fun start ops _ => block start ops) ?_ ?_ op
  · exact fun op hm => absurd hm List.not_mem_nil
  · exact fun op ops hop hops => List.forall_mem_cons.mpr ⟨hop, hops⟩

end BlockOp

namespace Block

/-! ### A block within another one -/

/-- The whole block is the outer one with the lines of the inner one behind its own, and stands
where the inner one stands, counted from the level of the outer one. -/
structure Nests (outer inner whole : Block) : Prop where
  indentSize : inner.indentSize = outer.indentSize
  indentChar : inner.indentChar = outer.indentChar
  whole_eq : whole = (outer.extendBlock inner).indent inner.level

variable {outer inner whole : Block}

theorem indentLine_eq_empty_iff {b : Block} {line : String} :
    b.indentLine line = "" ↔ line = "" := by
  by_cases h : line = "" <;> simp [indentLine, h, String.ext_iff]

theorem Nests.indentation (h : Nests outer inner whole) :
    whole.indentation = outer.indentation ++ inner.indentation := by
  simp [h.whole_eq, Block.indentation, indent, extendBlock, extend, h.indentSize, h.indentChar,
    Nat.add_mul]

/-- To indent a line in the whole block is to indent it in the inner one and then in the outer one.
Empty lines are not indented by any. -/
theorem Nests.indentLine (h : Nests outer inner whole) (line : String) :
    whole.indentLine line = outer.indentLine (inner.indentLine line) := by
  by_cases hl : line = ""
  · simp [Block.indentLine, hl]
  · have hi : inner.indentLine line ≠ "" := by simpa [indentLine_eq_empty_iff] using hl
    rw [Block.indentLine, if_neg hl, Block.indentLine, if_neg hi, Block.indentLine, if_neg hl,
      h.indentation, String.toList_ofList, List.append_assoc]

/-! ### One operation -/

theorem Nests.extend (h : Nests outer inner whole) (lines : List String) :
    Nests outer (inner.extend lines) (whole.extend lines) where
  indentSize := h.indentSize
  indentChar := h.indentChar
  whole_eq := by
    have hlines :
        lines.map whole.indentLine = (lines.map inner.indentLine).map outer.indentLine := by
      simp [h.indentLine]
    rw [Block.extend, hlines, h.whole_eq]
    simp [Block.extend, extendBlock, indent]

theorem Nests.emptyLines (h : Nests outer inner whole) (count : Nat) :
    Nests outer (inner.emptyLines count) (whole.emptyLines count) where
  indentSize := h.indentSize
  indentChar := h.indentChar
  whole_eq := by
    simp [h.whole_eq, Block.emptyLines, extendBlock, Block.extend, indent, Block.indentLine]

theorem Nests.indent (h : Nests outer inner whole) (steps : Nat) :
    Nests outer (inner.indent steps) (whole.indent steps) where
  indentSize := h.indentSize
  indentChar := h.indentChar
  whole_eq := by
    simp [h.whole_eq, Block.indent, extendBlock, Block.extend, Nat.add_assoc]

/-- The steps must not lead out of the inner block, which would stop at its first level. -/
theorem Nests.dedent (h : Nests outer inner whole) {steps : Nat} (hs : steps ≤ inner.level) :
    Nests outer (inner.dedent steps) (whole.dedent steps) where
  indentSize := h.indentSize
  indentChar := h.indentChar
  whole_eq := by
    simp [h.whole_eq, Block.dedent, Block.indent, extendBlock, Block.extend,
      Nat.add_sub_assoc hs]

end Block

namespace BlockOp

/-- The operation does the same to a block within another one as to the block that stands for both,
and ends at the height that is foretold. -/
def Nests (op : BlockOp) : Prop :=
  ∀ {outer inner whole : Block} {height : Nat}, Block.Nests outer inner whole →
    op.heightAfter? inner.level = some height →
    Block.Nests outer (op.apply inner) (op.apply whole) ∧ (op.apply inner).level = height

/-! ### Runs -/

/-- One after the other, operations do the same to a block within another one if each does. -/
theorem nests_applyAll {ops : List BlockOp} (hops : ∀ op ∈ ops, op.Nests)
    {outer inner whole : Block} {height : Nat} (h : Block.Nests outer inner whole)
    (hh : heightAfterAll? inner.level ops = some height) :
    Block.Nests outer (applyAll inner ops) (applyAll whole ops) ∧
      (applyAll inner ops).level = height := by
  induction ops generalizing inner whole with
  | nil => exact ⟨h, Option.some.inj hh⟩
  | cons op ops ih =>
    obtain ⟨hop, hrest⟩ := List.forall_mem_cons.mp hops
    obtain ⟨next, hnext, hh⟩ := Option.bind_eq_some_iff.mp hh
    obtain ⟨hn, hl⟩ := hop h hnext
    exact ih hrest hn (hl ▸ hh)

theorem nests (op : BlockOp) : op.Nests := by
  induction op using BlockOp.induction with
  | append line | appendText text | extend lines | extendDedented lines | block start ops =>
    intro outer inner whole height h hh
    exact ⟨h.extend _, Option.some.inj hh⟩
  | emptyLines count =>
    intro outer inner whole height h hh
    exact ⟨h.emptyLines count, Option.some.inj hh⟩
  | indent steps =>
    intro outer inner whole height h hh
    exact ⟨h.indent steps, Option.some.inj hh⟩
  | dedent steps =>
    intro outer inner whole height h hh
    have hh := heightBelow?_eq_some_iff.mp hh
    refine ⟨h.dedent (by omega), ?_⟩
    change inner.level - steps = height
    omega
  | indented ops ih =>
    intro outer inner whole height h hh
    obtain ⟨top, htop, hh⟩ := Option.bind_eq_some_iff.mp hh
    have hh := heightBelow?_eq_some_iff.mp hh
    obtain ⟨hn, hl⟩ := nests_applyAll ih (h.indent 1) htop
    refine ⟨hn.dedent (by omega), ?_⟩
    change (applyAll (inner.indent 1) ops).level - 1 = height
    omega

end BlockOp

/-! ### Blocks of their own -/

namespace Block

/-- A block without lines at the first level, which indents as this one does. -/
def fresh (b : Block) : Block where
  indentSize := b.indentSize
  indentChar := b.indentChar

theorem nests_fresh (b : Block) : Nests b b.fresh b where
  indentSize := rfl
  indentChar := rfl
  whole_eq := by simp [fresh, extendBlock, extend, indent]

/-- Operations that never go below the level they start at write the same lines to a block, at
whatever level, as to one of its own that is then appended. What is then missing is the height at
which they end. -/
theorem extendBlock_applyAll (b : Block) {ops : List BlockOp} (h : BlockOp.StayAboveStart ops) :
    (b.extendBlock (BlockOp.applyAll b.fresh ops)).lines = (BlockOp.applyAll b ops).lines ∧
      (b.extendBlock (BlockOp.applyAll b.fresh ops)).indent (BlockOp.applyAll b.fresh ops).level =
        BlockOp.applyAll b ops := by
  obtain ⟨height, hh⟩ := Option.isSome_iff_exists.mp h
  obtain ⟨hn, -⟩ := BlockOp.nests_applyAll (fun op _ => op.nests) b.nests_fresh hh
  rw [hn.whole_eq]
  exact ⟨rfl, rfl⟩

/-- Within the nested scope this comes back to the level at the start. -/
def functionOps : List BlockOp :=
  [.append "begin", .indent 1,
    .indented [.extendDedented ["\t\tx", "", "\t\t\ty"], .dedent 2, .appendText "a\nb", .indent 1],
    .block { level := 1 } [.append "z", .dedent 3, .append "w"], .emptyLines 1, .append "end"]

/-- A block with a line, at its second level. -/
def dotted : Block where
  lines := ["start"]
  level := 1
  indentSize := 2
  indentChar := '.'

theorem extendBlock_functionOps : BlockOp.StayAboveStart functionOps ∧
    (dotted.extendBlock (BlockOp.applyAll dotted.fresh functionOps)).lines =
      (BlockOp.applyAll dotted functionOps).lines ∧
    (BlockOp.applyAll dotted functionOps).lines =
      ["start", "..begin", "......x", "", "......\ty", "..a", "..b", "..    z", "..w", "",
        "..end"] :=
  ⟨by decide, (extendBlock_applyAll dotted (by decide)).1, by decide⟩

/-- Below that level, the block of its own stays at the first level. -/
example : ¬ BlockOp.StayAboveStart [.dedent 1, .append "x"] ∧
    (BlockOp.applyAll dotted [.dedent 1, .append "x"]).lines = ["start", "x"] ∧
    (dotted.extendBlock (BlockOp.applyAll dotted.fresh [.dedent 1, .append "x"])).lines =
      ["start", "..x"] := by
  decide

end Block

end TypedTree.Text
