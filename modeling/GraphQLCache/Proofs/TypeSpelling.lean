import GraphQLCache.TypeRef
import Mathlib.Data.List.Basic

/-!
# `Proofs.TypeSpelling` — a type is known by its spelling

A list is spelt with brackets around, a type that is never null with a mark behind, and no mark occurs in a name
(`Spellable`). So the first and the last character of a spelling tell the outermost wrapper, and what is left
without them is the spelling of the reference within: two references are spelt alike if and only if they have the
same wrappers and the same base name (`Spellable.display_eq_iff`).

Each of the questions that are asked of a reference goes down its wrappers in its own way. Here each is answered
from the spelling, by an induction on what can be spelt.
-/

namespace GraphQLCache

namespace TypeRef

/-! ## References that can be spelt -/

/-- The wrappers of a reference, from outside in. -/
def layers : TypeRef → List RefKind
  | .leaf _ _ => []
  | .wrap kind _ inner => kind :: inner.layers

/-- A character that stands for a wrapper. -/
def isMark (c : Char) : Bool := c = '[' || c = ']' || c = '!'

/-- **A reference that can be spelt**: wrappers that have no names of their own, around a type of another kind that
    has one, in which no mark of a wrapper occurs. -/
inductive Spellable : TypeRef → Prop
  | named {word : String} {plain : word ≠ "LIST" ∧ word ≠ "NON_NULL"} {name : String} (proper : name ≠ "")
      (unmarked : ∀ c ∈ name.toList, isMark c = false) : Spellable (.leaf (.named word plain) (some name))
  | list {name : Option String} {inner : TypeRef} (unnamed : properName? name = none) (within : Spellable inner) :
      Spellable (.wrap .list name inner)
  | nonNull {name : Option String} {inner : TypeRef} (unnamed : properName? name = none)
      (within : Spellable inner) : Spellable (.wrap .nonNull name inner)

variable {r s inner element : TypeRef} {name : Option String} {text : String} {c : Char}

theorem properName?_of_ne (h : text ≠ "") : properName? (some text) = some text := by
  simp [properName?, h]

/-! ## Spellings, wrapper by wrapper -/

theorem display_named {word : String} {plain : word ≠ "LIST" ∧ word ≠ "NON_NULL"} (h : text ≠ "") :
    (leaf (.named word plain) (some text)).display = text := by
  rw [display, properName?_of_ne h, Option.getD_some]

theorem baseName_named {kind : RefKind} (h : text ≠ "") : (leaf kind (some text)).baseName = text := by
  rw [baseName, properName?_of_ne h, Option.getD_some]

theorem baseName_unnamed {kind : RefKind} (h : properName? name = none) :
    (wrap kind name inner).baseName = inner.baseName := by
  rw [baseName, h, Option.getD_none]

@[simp] theorem toList_display_list (name : Option String) (inner : TypeRef) :
    (wrap .list name inner).display.toList = '[' :: (inner.display.toList ++ [']']) := by
  simp [display]

@[simp] theorem toList_display_nonNull (name : Option String) (inner : TypeRef) :
    (wrap .nonNull name inner).display.toList = inner.display.toList ++ ['!'] := by
  simp [display]

theorem Spellable.display_ne_nil (h : r.Spellable) : r.display.toList ≠ [] := by
  cases h with
  | named proper _ =>
      rw [display_named proper]
      simpa using proper
  | list _ _ => simp
  | nonNull _ _ => simp

/-! ## What the ends of a spelling tell -/

/-- **A type is never null if and only if its spelling ends in the mark for it.** -/
theorem Spellable.isNonNull_iff (h : r.Spellable) :
    r.isNonNull = true ↔ r.display.toList.getLast? = some '!' := by
  cases h with
  | @named word plain text proper unmarked =>
      rw [display_named proper]
      refine ⟨fun hnonNull => by simp [isNonNull, kind] at hnonNull, fun hlast => ?_⟩
      have hmark : isMark '!' = false := unmarked '!' (List.mem_of_getLast? hlast)
      exact absurd hmark (by decide)
  | list _ _ =>
      rw [toList_display_list, ← List.cons_append, List.getLast?_concat]
      exact ⟨fun hnonNull => by simp [isNonNull, kind] at hnonNull, fun hlast => by simp at hlast⟩
  | nonNull _ _ =>
      rw [toList_display_nonNull, List.getLast?_concat]
      simp [isNonNull, kind]

/-- **A type is a list if and only if its spelling begins with a bracket.** -/
theorem Spellable.isList_iff (h : r.Spellable) : r.isList = true ↔ r.display.toList.head? = some '[' := by
  induction h with
  | @named word plain text proper unmarked =>
      rw [display_named proper]
      refine ⟨fun hlist => by simp [isList] at hlist, fun hfirst => ?_⟩
      have hmark : isMark '[' = false := unmarked '[' (List.mem_of_head? hfirst)
      exact absurd hmark (by decide)
  | list _ _ _ => simp [isList]
  | nonNull _ within ih =>
      rw [toList_display_nonNull, List.head?_append_of_ne_nil _ within.display_ne_nil]
      exact ih

/-- A type is a list if and only if it has an element. -/
theorem Spellable.isList_iff_element (h : r.Spellable) : r.isList = true ↔ r.element? ≠ none := by
  induction h with
  | named _ _ => simp [isList, element?]
  | list _ _ _ => simp [isList, element?]
  | nonNull _ _ ih => exact ih

/-- **The base name is what is left of the spelling** without the marks. -/
theorem Spellable.filter_display (h : r.Spellable) :
    r.display.toList.filter (fun c => !isMark c) = r.baseName.toList := by
  induction h with
  | @named word plain text proper unmarked =>
      rw [display_named proper, baseName_named proper, List.filter_eq_self]
      intro c hc
      rw [unmarked c hc]
      rfl
  | @list name inner unnamed _ ih =>
      rw [baseName_unnamed unnamed, ← ih, toList_display_list, List.filter_cons_of_neg (by decide),
        List.filter_append]
      simp [isMark]
  | @nonNull name inner unnamed _ ih =>
      rw [baseName_unnamed unnamed, ← ih, toList_display_nonNull, List.filter_append]
      simp [isMark]

/-- The number of non-null wrappers around everything else. -/
def outerNonNulls (r : TypeRef) : Nat := (r.layers.takeWhile (· = .nonNull)).length

/-- **A list is spelt as its element in brackets**, with a mark behind for each non-null wrapper around it. -/
theorem Spellable.display_of_element (h : r.Spellable) (helement : r.element? = some element) :
    r.display = "[" ++ element.display ++ "]" ++ String.ofList (List.replicate r.outerNonNulls '!') := by
  induction h with
  | named _ _ => cases helement
  | list _ _ _ =>
      cases helement
      simp [display, outerNonNulls, layers]
  | @nonNull name inner _ _ ih =>
      have hone : (wrap .nonNull name inner).outerNonNulls = inner.outerNonNulls + 1 := by
        simp [outerNonNulls, layers]
      rw [display, ih helement, hone, List.replicate_succ', String.ofList_append, ← String.append_assoc]

/-! ## Spellings that are alike -/

/-- References that are spelt alike are lists, and never null, alike. -/
theorem Spellable.alike (hr : r.Spellable) (hs : s.Spellable) (h : r.display = s.display) :
    r.isList = s.isList ∧ r.isNonNull = s.isNonNull := by
  constructor
  · rw [Bool.eq_iff_iff, hr.isList_iff, hs.isList_iff, h]
  · rw [Bool.eq_iff_iff, hr.isNonNull_iff, hs.isNonNull_iff, h]

/-- **The spelling determines the wrappers.** The outermost ones are of one kind, and the references within are spelt
    alike again. -/
theorem Spellable.layers_eq (hr : r.Spellable) (hs : s.Spellable) (h : r.display = s.display) :
    r.layers = s.layers := by
  -- Both spellings begin and end alike, so the outermost constructors are the same.
  induction hr generalizing s with
  | named proper unmarked =>
      obtain ⟨hlist, hnonNull⟩ := (Spellable.named proper unmarked).alike hs h
      cases hs with
      | named _ _ => rfl
      | list _ _ => cases hlist
      | nonNull _ _ => cases hnonNull
  | list unnamed within ih =>
      obtain ⟨hlist, hnonNull⟩ := (Spellable.list unnamed within).alike hs h
      cases hs with
      | named _ _ => cases hlist
      | list _ within' =>
          rw [layers, layers, ih within']
          simpa [display] using h
      | nonNull _ _ => cases hnonNull
  | nonNull unnamed within ih =>
      obtain ⟨-, hnonNull⟩ := (Spellable.nonNull unnamed within).alike hs h
      cases hs with
      | named _ _ => cases hnonNull
      | list _ _ => cases hnonNull
      | nonNull _ within' =>
          rw [layers, layers, ih within']
          simpa [display] using h

/-- References with the same wrappers around the same base name are spelt alike. -/
theorem Spellable.display_eq (hr : r.Spellable) (hs : s.Spellable) (hlayers : r.layers = s.layers)
    (hbase : r.baseName = s.baseName) : r.display = s.display := by
  induction hr generalizing s with
  | named proper _ =>
      cases hs with
      | named proper' _ =>
          rw [baseName_named proper, baseName_named proper'] at hbase
          rw [display_named proper, display_named proper', hbase]
      | list _ _ => cases hlayers
      | nonNull _ _ => cases hlayers
  | list unnamed _ ih =>
      cases hs with
      | named _ _ => cases hlayers
      | list unnamed' within' =>
          rw [baseName_unnamed unnamed, baseName_unnamed unnamed'] at hbase
          rw [display, display, ih within' (List.cons.inj hlayers).2 hbase]
      | nonNull _ _ => cases (List.cons.inj hlayers).1
  | nonNull unnamed _ ih =>
      cases hs with
      | named _ _ => cases hlayers
      | list _ _ => cases (List.cons.inj hlayers).1
      | nonNull unnamed' within' =>
          rw [baseName_unnamed unnamed, baseName_unnamed unnamed'] at hbase
          rw [display, display, ih within' (List.cons.inj hlayers).2 hbase]

/-- **Two references are spelt alike if and only if they are the same type**: the same wrappers in the same order
    around the same base name. -/
theorem Spellable.display_eq_iff (hr : r.Spellable) (hs : s.Spellable) :
    r.display = s.display ↔ r.layers = s.layers ∧ r.baseName = s.baseName := by
  constructor
  · intro h
    refine ⟨hr.layers_eq hs h, ?_⟩
    apply String.toList_inj.mp
    rw [← hr.filter_display, ← hs.filter_display, h]
  · rintro ⟨hlayers, hbase⟩
    exact hr.display_eq hs hlayers hbase

/-- **The spelling of a type determines the type**, and all that is asked of it can be read off the spelling: it is
    never null if and only if the spelling ends in an exclamation mark; it is a list if and only if the spelling
    begins with a bracket, which is when it has an element; its base name is the spelling without the marks; and a
    list is spelt as its element in brackets, with as many exclamation marks behind as non-null wrappers are around
    it. -/
theorem spelling_determines_type (r s : TypeRef) (hr : r.Spellable) (hs : s.Spellable) :
    (r.display = s.display ↔ r.layers = s.layers ∧ r.baseName = s.baseName) ∧
    (r.isNonNull = true ↔ r.display.toList.getLast? = some '!') ∧
    (r.isList = true ↔ r.display.toList.head? = some '[') ∧
    (r.isList = true ↔ r.element? ≠ none) ∧
    r.baseName = String.ofList (r.display.toList.filter fun c => !isMark c) ∧
    ∀ element, r.element? = some element →
      r.display = "[" ++ element.display ++ "]" ++ String.ofList (List.replicate r.outerNonNulls '!') := by
  refine ⟨hr.display_eq_iff hs, hr.isNonNull_iff, hr.isList_iff, hr.isList_iff_element, ?_, ?_⟩
  · rw [hr.filter_display, String.ofList_toList]
  · intro element helement
    exact hr.display_of_element helement

/-- A box, as the type of a field. -/
def boxRef : TypeRef := .leaf (.named "OBJECT" (by decide)) (some "Box")

/-- Two lists of lists of boxes with the same wrappers in another order, and so with other spellings. -/
theorem boxes_told_by_spelling :
    (nonNull (nonNull (listOf (listOf boxRef)))).Spellable ∧
    (listOf (nonNull (listOf (nonNull boxRef)))).Spellable ∧
    (nonNull (nonNull (listOf (listOf boxRef)))).display = "[[Box]]!!" ∧
    (listOf (nonNull (listOf (nonNull boxRef)))).display = "[[Box!]!]" ∧
    ((nonNull (nonNull (listOf (listOf boxRef)))).display =
        (listOf (nonNull (listOf (nonNull boxRef)))).display ↔
      [RefKind.nonNull, .nonNull, .list, .list] = [.list, .nonNull, .list, .nonNull] ∧ "Box" = "Box") ∧
    "[[Box]]!!" = "[" ++ (listOf boxRef).display ++ "]" ++ String.ofList (List.replicate 2 '!') := by
  have hbox : boxRef.Spellable := .named (by decide) (by simp [isMark])
  have hr : (nonNull (nonNull (listOf (listOf boxRef)))).Spellable :=
    .nonNull rfl (.nonNull rfl (.list rfl (.list rfl hbox)))
  have hs : (listOf (nonNull (listOf (nonNull boxRef)))).Spellable :=
    .list rfl (.nonNull rfl (.list rfl (.nonNull rfl hbox)))
  have hspelt : (nonNull (nonNull (listOf (listOf boxRef)))).display = "[[Box]]!!" := by decide
  obtain ⟨hiff, -, -, -, -, helement⟩ := spelling_determines_type _ _ hr hs
  have hlist := helement (listOf boxRef) rfl
  rw [hspelt] at hlist
  exact ⟨hr, hs, hspelt, by decide, hiff, hlist⟩

end TypeRef

end GraphQLCache
