import CallChain.Proofs.Identifiers
import CallChain.Proofs.Python.Formation
import CallChain.Proofs.Python.Lexing
import CallChain.Proofs.Scopes

/-!
# How routines are called

What functions and classes are called is spelled by tokens of the source, and a name token is an
identifier.  So names hold no dots, slashes, colons or blanks, and the qualified name of a routine,
which joins such names by dots, holds none of these but the dots: `IsParsed.dotted_qualname`.

Nor is a name token empty, and neither is what an annotation or a callee spells:
`Formed.annotated?_ne_empty` and `Formed.dotted?_ne_empty`.
-/

namespace CallChain

namespace Text

/-- The text holds no dividers. -/
def Undivided (text : String) : Prop := Clear (text.toList.map Char.toNat)

/-- The text holds no dividers but dots. -/
def Dotted (text : String) : Prop := ∀ c ∈ text.toList, c ≠ '.' → isDivider c.toNat = false

theorem Undivided.dotted {text : String} (htext : Undivided text) : Dotted text :=
  fun c hc _ => htext c.toNat (List.mem_map_of_mem hc)

theorem Dotted.not_mem {text : String} (htext : Dotted text) {c : Char} (hdot : c ≠ '.')
    (hdivider : isDivider c.toNat = true) : c ∉ text.toList := by
  intro hc
  rw [htext c hc hdot] at hdivider
  cases hdivider

theorem dotted_joinWith {texts : List String} (htexts : ∀ text ∈ texts, Dotted text) :
    Dotted (joinWith "." texts) := by
  intro c hc hdot
  rcases mem_joinWith hc with hmark | ⟨text, htext, hc⟩
  · exact absurd (by simpa using hmark) hdot
  · exact htexts text htext c hc hdot

end Text

/-! ## Name tokens -/

namespace Python

theorem not_isDivider_of_isWordChar {c : Char} (hword : isWordChar c = true) (hascii : c.toNat < 128) :
    Text.isDivider c.toNat = false := by
  have hall : ∀ n < 128, isWordChar (Char.ofNat n) = true → Text.isDivider n = false := by decide
  exact hall c.toNat hascii (by rwa [Char.ofNat_toNat])

theorem IsName.undivided {id : String} (hname : IsName id) : Text.Undivided id := by
  cases hname with
  | ascii _ hword hascii =>
      rw [Text.Undivided, String.toList_ofList]
      intro point hpoint
      obtain ⟨c, hc, rfl⟩ := List.mem_map.mp hpoint
      exact not_isDivider_of_isWordChar (hword c hc) (hascii c hc)
  | wide hidentifier =>
      rw [Text.Undivided, String.toList_ofList]
      exact Text.clear_compatible (Text.clear_of_isIdentifier hidentifier)

theorem Node.Formed.declaredName {accepts : String → Prop} {node : Node}
    (hformed : node.Formed accepts) : ∀ id ∈ node.declaredName?, accepts id := by
  cases hformed with
  | plain hplain =>
      intro id hid
      have hkind := hplain.isStatement_eq_false
      cases node <;> simp [declaredName?, isStatement] at hid hkind
  | statement _ hname _ => exact hname

/-! ## Names of types -/

namespace Node

theorem Formed.dotted?_ne_empty {accepts : String → Prop} {node : Node}
    (hformed : node.Formed accepts) {text : String} (hdotted : node.dotted? = some text) :
    text ≠ "" := by
  unfold dotted? at hdotted
  split at hdotted
  · cases hdotted
    cases hformed with
    | plain hplain => exact ne_empty_of_plain_name hplain
    | statement hkind => cases hkind
  · obtain ⟨base, -, rfl⟩ := Option.map_eq_some_iff.mp hdotted
    simp
  · cases hdotted

theorem ne_nil_of_isNameLike {points : List Nat} (hname : isNameLike points = true) : points ≠ [] := by
  rintro rfl
  cases hname

theorem Formed.annotated?_ne_empty {accepts : String → Prop} {node : Node}
    (hformed : node.Formed accepts) {text : String} (hannotated : node.annotated? = some text) :
    text ≠ "" := by
  fun_induction annotated? node with
  | case1 points kind core hname =>
      cases hannotated
      simpa using ne_nil_of_isNameLike hname
  | case2 => cases hannotated
  | case3 value index container hcontainer hoptional ih =>
      have hindex : (.part, index) ∈ (Node.subscript value index).children := by simp [Node.children]
      exact ih (hformed.child hindex) hannotated
  | case4 => cases hannotated
  | case5 => cases hannotated
  | case6 => exact hformed.dotted?_ne_empty hannotated

end Node

end Python

open Python

/-! ## Names of routines -/

theorem accepts_of_mem_scopesAt {accepts : String → Prop} {tree : Node}
    (hformed : tree.Formed accepts) {s : Spot} (hs : s.IsIn tree) :
    ∀ scope ∈ scopesAt s, accepts scope.name := by
  induction s with
  | root node => simp [scopesAt]
  | child parent role index node ih =>
      intro scope hscope
      rw [scopesAt, scopesBelow_eq, List.mem_append, Option.mem_toList] at hscope
      rcases hscope with hnearest | houter
      · refine (hformed.of_isIn hs.1).declaredName scope.name ?_
        unfold scopeOf? at hnearest
        split at hnearest <;> cases hnearest <;> simp_all [Node.declaredName?]
      · exact ih hs.1 scope houter

theorem SourceModule.IsParsed.dotted_qualname {m : SourceModule} (hm : m.IsParsed) {r : Routine}
    (hr : r ∈ m.routines) : Text.Dotted r.qualname := by
  obtain ⟨name, text, tree, htree, rfl⟩ := hm
  obtain ⟨-, tokens, htokens, hformed⟩ := exists_formed_of_parse? htree
  have hundivided : ∀ {id}, Spelled tokens id → Text.Undivided id := fun hid =>
    (isName_of_spelled htokens hid).undivided
  obtain ⟨f, hf, rfl⟩ := List.mem_map.mp hr
  obtain ⟨s, hs, hown⟩ := mem_functionDeclarations_iff.mp hf
  unfold ownDeclarations at hown
  split at hown
  · cases List.mem_singleton.mp hown
  · rename_i isAsync span id params body decorators returns hnode
    cases List.mem_singleton.mp hown
    refine Text.dotted_joinWith fun part hpart => (hundivided ?_).dotted
    rcases List.mem_append.mp hpart with houter | hid
    · obtain ⟨scope, hscope, rfl⟩ := List.mem_map.mp (List.mem_reverse.mp houter)
      exact accepts_of_mem_scopesAt hformed hs scope hscope
    · rw [List.mem_singleton.mp hid]
      exact (hformed.of_isIn hs).declaredName id (by rw [hnode]; rfl)
  · cases hown

end CallChain
