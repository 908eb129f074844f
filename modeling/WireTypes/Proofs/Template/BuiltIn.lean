import Mathlib.Data.List.Basic
import WireTypes.Template.Library

/-!
# Template — The built-in templates

The trees of the two built-in templates, and what rendering does at each
kind of node. A template of one loop over the fields, with places for
parts of a field in it, renders to one line per field, whatever the
values are.
-/

namespace WireTypes.Template

open Text

/-! ## Trees of the built-in templates -/

/-- The lexemes of the part of a field with this name. -/
def fieldLexemes (part : String) : List Lexeme :=
  [.name "field".toList, .dot, .name part.toList]

/-- The tokens of a loop over the fields. -/
def fieldLoopTokens (body : List Token) : List Token :=
  .tag [.name "for".toList, .name "field".toList, .name "in".toList, .name "fields".toList] ::
    (body ++ [.tag [.name "endfor".toList], .text "\x7d".toList])

def structTokens : List Token :=
  .text "type ".toList :: .place [.name "struct_name".toList] :: .text " struct \x7b\n".toList ::
    fieldLoopTokens
      [.text "\t".toList, .place (fieldLexemes "name"), .text " ".toList,
       .place (fieldLexemes "type"), .text " ".toList, .place (fieldLexemes "tag"),
       .place (fieldLexemes "comment"), .text "\n".toList]

def interfaceTokens : List Token :=
  .place [.name "prefix".toList] :: .text "interface ".toList ::
    .place [.name "interface_name".toList] :: .text " \x7b\n".toList ::
    fieldLoopTokens
      [.text "  ".toList, .place (fieldLexemes "name"), .place (fieldLexemes "marker"),
       .text ": ".toList, .place (fieldLexemes "type"), .text ";".toList,
       .place (fieldLexemes "comment"), .text "\n".toList]

/-- The place of a value. -/
def placeOf (name : String) : Node := .place ⟨.name name.toList, [], []⟩

/-- The place of a part of the field in a loop. -/
def placeOfPart (part : String) : Node := .place ⟨.name "field".toList, [.name part.toList], []⟩

/-- A loop over the fields and the brace behind it. -/
def fieldLoop (body : List Node) : List Node :=
  [.loop "field".toList ⟨.name "fields".toList, [], []⟩ body, .text "\x7d".toList]

def structMemberNodes : List Node :=
  [.text "\t".toList, placeOfPart "name", .text " ".toList, placeOfPart "type", .text " ".toList,
   placeOfPart "tag", placeOfPart "comment", .text "\n".toList]

def structNodes : List Node :=
  .text "type ".toList :: placeOf "struct_name" :: .text " struct \x7b\n".toList ::
    fieldLoop structMemberNodes

def interfaceMemberNodes : List Node :=
  [.text "  ".toList, placeOfPart "name", placeOfPart "marker", .text ": ".toList,
   placeOfPart "type", .text ";".toList, placeOfPart "comment", .text "\n".toList]

def interfaceNodes : List Node :=
  placeOf "prefix" :: .text "interface ".toList :: placeOf "interface_name" ::
    .text " \x7b\n".toList :: fieldLoop interfaceMemberNodes

/-- The tokens of a template decide its tree. -/
theorem ofText?_of_tokens {t : Text} {tokens : List Token} {nodes : List Node}
    {rest : List Token}
    (htokens : tokens? ((dropFinalNewline (unifyNewlines t)).length + 1) true
      (dropFinalNewline (unifyNewlines t)) = some tokens)
    (hnodes : nodes? (tokens.length + 1) 0 tokens = some (nodes, rest)) :
    ofText? t = some nodes := by
  rw [ofText?]
  simp only [Option.bind_eq_bind, htokens, Option.bind_some, hnodes]
  rfl

theorem compile_structSource : compile structSource = .ok structNodes := by
  -- the source is spelled out first: its bytes would be slow to read back
  have htext : ∃ t, structSource = t ∧ tokens? ((dropFinalNewline (unifyNewlines t)).length + 1)
      true (dropFinalNewline (unifyNewlines t)) = some structTokens := by
    refine ⟨_, congrArg₂ (· ++ ·) (congrArg₂ (· ++ ·) (congrArg₂ (· ++ ·) (congrArg₂ (· ++ ·)
      (toList_of_eq rfl) (toList_of_eq rfl)) (toList_of_eq rfl)) (toList_of_eq rfl))
      (toList_of_eq rfl), ?_⟩
    decide +kernel
  obtain ⟨t, ht, htokens⟩ := htext
  have htree : ofText? t = some structNodes := ofText?_of_tokens htokens rfl
  rw [ht, compile, htree]
  rfl

theorem compile_interfaceSource : compile interfaceSource = .ok interfaceNodes := by
  have htext : ∃ t, interfaceSource = t ∧ tokens? ((dropFinalNewline (unifyNewlines t)).length + 1)
      true (dropFinalNewline (unifyNewlines t)) = some interfaceTokens := by
    refine ⟨_, congrArg₂ (· ++ ·) (congrArg₂ (· ++ ·) (congrArg₂ (· ++ ·)
      (toList_of_eq rfl) (toList_of_eq rfl)) (toList_of_eq rfl)) (toList_of_eq rfl), ?_⟩
    decide +kernel
  obtain ⟨t, ht, htokens⟩ := htext
  have htree : ofText? t = some interfaceNodes := ofText?_of_tokens htokens rfl
  rw [ht, compile, htree]
  rfl

/-! ## Rendering, node by node -/

variable {scope : Scope} {node : Node} {nodes : List Node} {e : Expr} {first others : Text}

theorem renderAll_cons (hfirst : node.render false scope = .ok first)
    (hothers : renderAll false scope nodes = .ok others) :
    renderAll false scope (node :: nodes) = .ok (first ++ others) := by
  rw [renderAll, hfirst, hothers]
  rfl

theorem render_text (t : Text) : (Node.text t).render false scope = .ok t := by
  rw [Node.render]

theorem render_place {value : Value} (h : e.value scope = .ok value) :
    (Node.place e).render false scope = .ok value.toText := by
  rw [Node.render, h]
  rfl

theorem value_name (n : Text) :
    Expr.value scope ⟨.name n, [], []⟩ = .ok (valueOf scope n) := rfl

theorem render_placeOf {name : String} {value : Value}
    (h : valueOf scope name.toList = value) :
    (placeOf name).render false scope = .ok value.toText :=
  render_place (by rw [value_name, h])

/-- A part that hides behind no operation of objects is the member. -/
theorem dataPart_object {members : Table Json} {part : Text} {value : Json}
    (hkind : part ≠ kindName) (hhash : part ≠ "__hash__".toList)
    (hoperation : (Kind.named "dict").hasOperation part = false)
    (h : Table.get? members part = some value) :
    dataPart (.object members) part = .data value := by
  -- objects have none of the parts of numbers, which would come first
  have hnumber : numberPart? (.object members) part = none := rfl
  simp only [dataPart, hnumber, hkind, hhash, Kind.ofJson, hoperation, if_false, decide_false,
    Bool.and_false, Bool.false_eq_true, h]
  rfl

theorem render_placeOfPart {part : String} {members : Table Json} {value : Json}
    (hfield : valueOf scope "field".toList = .data (.object members))
    (h : dataPart (.object members) part.toList = .data value) :
    (placeOfPart part).render false scope = .ok value.plain := by
  have hpart : (Attribute.name part.toList).of (.data (.object members)) = .ok (.data value) := by
    rw [Attribute.of, Value.part?, h]
    rfl
  have hvalue : Expr.value scope ⟨.name "field".toList, [.name part.toList], []⟩
      = .ok (.data value) := by
    rw [Expr.value, Source.value, hfield, List.foldlM_cons, hpart]
    rfl
  exact render_place hvalue

/-! ## Rendering a loop -/

/-- A run over numbered items whose numbers do not matter. -/
theorem mapM_zipIdx {α β ε : Type} {xs : List α} {member : α → Json} {line : α → β}
    {f : Json × Nat → Except ε β} (h : ∀ x ∈ xs, ∀ k, f (member x, k) = .ok (line x)) (k : Nat) :
    ((xs.map member).zipIdx k).mapM f = .ok (xs.map line) := by
  induction xs generalizing k with
  | nil => rfl
  | cons x xs ih =>
      rw [List.map_cons, List.zipIdx_cons, List.mapM_cons, h x (by simp) k,
        ih (fun y hy => h y (by simp [hy])) (k + 1)]
      rfl

theorem valueOf_itemScope (scope : Scope) (item : Text) (items : List Json) (value : Json)
    (place : Nat) : valueOf (itemScope scope item items value place) item = .data value := by
  rw [valueOf, itemScope, Table.get?_insert, if_pos rfl]
  rfl

/-- **A loop over the fields renders its body once per field**, with the
field in scope. -/
theorem render_fieldLoop {α : Type} {xs : List α} {member : α → Json} {line : α → Text}
    {body : List Node}
    (hitems : valueOf scope "fields".toList = .data (.list (xs.map member)))
    (hbody : ∀ x ∈ xs, ∀ inner : Scope, valueOf inner "field".toList = .data (member x) →
      renderAll false inner body = .ok (line x)) :
    renderAll false scope (fieldLoop body) = .ok ((xs.map line).flatten ++ ['}']) := by
  have hparts : (xs.map member).zipIdx.mapM (fun p =>
        renderAll false (itemScope scope "field".toList (xs.map member) p.1 p.2) body)
      = .ok (xs.map line) := by
    apply mapM_zipIdx
    intro x hx place
    exact hbody x hx _ (valueOf_itemScope scope _ _ (member x) place)
  have hloop : Node.render false scope (.loop "field".toList ⟨.name "fields".toList, [], []⟩ body)
      = .ok (xs.map line).flatten := by
    rw [Node.render, value_name, hitems]
    show (do
      let parts ← (xs.map member).zipIdx.mapM fun p =>
        renderAll false (itemScope scope "field".toList (xs.map member) p.1 p.2) body
      return parts.flatten) = Except.ok (xs.map line).flatten
    rw [hparts]
    rfl
  rw [fieldLoop]
  exact renderAll_cons hloop (renderAll_cons (render_text _) (by rw [renderAll]))

end WireTypes.Template
