import Mathlib.Tactic.Common
import Formwork.Condition.Evaluate
/-!
# What a condition reads

Of the data a group of conditions reads nothing but the fields that it is said to read, as long as
no field has a name that is itself a path. Two contexts that agree on these fields and in all else
that conditions can see, the machine included, give the same answer, or the same failure.
-/
namespace Formwork

/-! ## Paths into data whose names are no paths -/

/-- Names without dots: no name can be taken for a path of several parts. -/
def Entries.Undotted {α : Type} (es : Entries α) : Prop := ∀ name ∈ es.names, '.' ∉ name.toList

instance {α : Type} (es : Entries α) : Decidable es.Undotted :=
  inferInstanceAs (Decidable (∀ name ∈ es.names, '.' ∉ name.toList))

namespace Value

variable {data other : Entries Value}

theorem split_eq_cons (path : String) :
    ∃ rest, Text.split '.' path = headOfPath path :: rest := by
  have hne : Text.split '.' path ≠ [] := by
    simp [Text.split, Text.splitChars_ne_nil]
  obtain ⟨head, rest, hsplit⟩ := List.exists_cons_of_ne_nil hne
  exact ⟨rest, by simp [headOfPath, hsplit]⟩

theorem not_mem_of_mem_splitChars {separator : Char} {cs part : List Char}
    (h : part ∈ Text.splitChars separator cs) : separator ∉ part := by
  induction cs generalizing part with
  | nil =>
    obtain rfl : part = [] := by simpa [Text.splitChars] using h
    exact List.not_mem_nil
  | cons x rest ih =>
    unfold Text.splitChars at h
    by_cases hx : x = separator
    · simp only [hx, ↓reduceIte, List.mem_cons] at h
      rcases h with rfl | h
      · exact List.not_mem_nil
      · exact ih h
    · cases hrest : Text.splitChars separator rest with
      | nil => exact absurd hrest (Text.splitChars_ne_nil separator rest)
      | cons word words =>
        simp only [hx, ↓reduceIte, hrest, List.mem_cons] at h ih
        rcases h with rfl | h
        · simpa [Ne.symm hx] using ih (.inl rfl)
        · exact ih (.inr h)

theorem dot_not_mem_headOfPath (path : String) : '.' ∉ (headOfPath path).toList := by
  obtain ⟨rest, hsplit⟩ := split_eq_cons path
  have hhead : headOfPath path ∈ (Text.splitChars '.' path.toList).map String.ofList := by
    rw [← Text.split, hsplit]
    exact List.mem_cons_self
  obtain ⟨part, hpart, hname⟩ := List.mem_map.mp hhead
  rw [← hname, String.toList_ofList]
  exact not_mem_of_mem_splitChars hpart

theorem headOfPath_of_undotted {path : String} (h : '.' ∉ path.toList) :
    headOfPath path = path := by
  simp [headOfPath, Text.split_eq_singleton h]

theorem atPath_of_undotted (h : data.Undotted) (path : String) : atPath data path =
    match data.get? (headOfPath path) with
    | some v => atPath.go v (Text.split '.' path).tail
    | none => null := by
  obtain ⟨rest, hsplit⟩ := split_eq_cons path
  have hgo : atPath.go (.map data) (Text.split '.' path) =
      match data.get? (headOfPath path) with
      | some v => atPath.go v (Text.split '.' path).tail
      | none => null := by
    rw [hsplit]
    rfl
  unfold atPath
  cases hget : data.get? path with
  | none => exact hgo
  | some v =>
    have hname : path ∈ data.names := by
      by_contra hnot
      rw [Entries.get?_eq_none_iff.mpr hnot] at hget
      cases hget
    have hdot : '.' ∉ path.toList := h path hname
    simp only [headOfPath_of_undotted hdot, hget, Text.split_eq_singleton hdot]
    rfl

theorem atPath_congr (h : data.Undotted) (hother : other.Undotted) {path : String}
    (hhead : data.get? (headOfPath path) = other.get? (headOfPath path)) :
    atPath data path = atPath other path := by
  rw [atPath_of_undotted h, atPath_of_undotted hother, hhead]

end Value

/-! ## The fields that are said to be read -/

mutual

/-- The conditions of a node, however deep they stand. -/
def Node.conditions : Node → List Condition
  | .leaf c => [c]
  | .group _ nodes => Node.allConditions nodes
termination_by structural n => n

def Node.allConditions : List Node → List Condition
  | [] => []
  | n :: rest => n.conditions ++ Node.allConditions rest
termination_by structural ns => ns

end

mutual

theorem Node.mem_fields_iff (n : Node) (name : String) : name ∈ n.fields ↔
    ∃ c ∈ n.conditions, c.source = .field ∧ Value.headOfPath c.field = name := by
  cases n with
  | leaf c =>
    by_cases hsource : c.source = .field <;> simp [fields, conditions, hsource, @eq_comm _ name]
  | group logic nodes => exact Node.mem_allFields_iff nodes name

theorem Node.mem_allFields_iff (nodes : List Node) (name : String) :
    name ∈ Node.allFields nodes ↔
      ∃ c ∈ Node.allConditions nodes, c.source = .field ∧ Value.headOfPath c.field = name := by
  cases nodes with
  | nil => simp [Node.allFields, Node.allConditions]
  | cons n rest =>
    simp only [Node.allFields, Node.allConditions, List.mem_append, or_and_right, exists_or,
      Node.mem_fields_iff n name, Node.mem_allFields_iff rest name]

end

/-- What a group is said to read are the heads of the paths that its conditions compare. -/
theorem Group.mem_fieldNames_iff {g : Group} {name : String} : name ∈ g.fieldNames ↔
    ∃ c ∈ g.node.conditions, c.source = .field ∧ Value.headOfPath c.field = name := by
  simp only [fieldNames, mem_ascending, mem_distinct, Node.mem_fields_iff]

/-! ## Contexts that conditions cannot tell apart -/

/-- Contexts that differ in nothing that conditions see but their data, in which no name is a
path. -/
structure Context.Alike (c d : Context) : Prop where
  user : c.user = d.user
  submission : c.submission = d.submission
  knownFields : c.knownFields = d.knownFields
  now : c.now = d.now
  host : c.host = d.host
  undotted : c.data.Undotted
  undotted' : d.data.Undotted

section Reading

variable {c d : Context}

/-- The same field of both, there or missing. -/
def Context.AgreeOn (c d : Context) (fields : List String) : Prop :=
  ∀ field ∈ fields, c.data.get? field = d.data.get? field

theorem Context.AgreeOn.mono {fields more : List String} (h : c.AgreeOn d more)
    (hsub : ∀ field ∈ fields, field ∈ more) : c.AgreeOn d fields :=
  fun field hfield => h field (hsub field hfield)

namespace Context.Alike

theorem knows_eq (h : c.Alike d) (field : String) : c.knows field = d.knows field := by
  unfold Context.knows
  rw [h.knownFields]

theorem operand_eq (h : c.Alike d) {source : Source} {path : String}
    (hfield : source = .field →
      c.data.get? (Value.headOfPath path) = d.data.get? (Value.headOfPath path)) :
    c.operand source path = d.operand source path := by
  cases source with
  | field => exact congrArg Operand.value (Value.atPath_congr h.undotted h.undotted' (hfield rfl))
  | userRole => simp only [operand, h.user]
  | userAttribute => simp only [operand, userAtPath, h.user]
  | submissionStatus => simp only [operand, h.submission]
  | time => simp only [operand, h.now]

theorem condition_eq (h : c.Alike d) {condition : Condition}
    (hagree : c.AgreeOn d (Node.leaf condition).fields) :
    condition.holds c = condition.holds d := by
  have hknown : condition.isKnown c = condition.isKnown d := by
    simp only [Condition.isKnown, h.knows_eq]
  have hoperand : c.operand condition.source condition.field =
      d.operand condition.source condition.field := by
    apply h.operand_eq
    intro hsource
    apply hagree
    simp [Node.fields, hsource]
  simp only [Condition.holds, Condition.compared, hknown, hoperand, h.host]

mutual

theorem node_eq (h : c.Alike d) (n : Node) (hagree : c.AgreeOn d n.fields) :
    n.holds c = n.holds d := by
  cases n with
  | leaf condition => exact h.condition_eq hagree
  | group logic nodes => simp only [Node.holds, h.nodes_eq logic nodes hagree]

theorem nodes_eq (h : c.Alike d) (logic : Logic) (nodes : List Node)
    (hagree : c.AgreeOn d (Node.allFields nodes)) :
    Node.combined logic c nodes = Node.combined logic d nodes := by
  cases nodes with
  | nil => rfl
  | cons n rest =>
    have hfirst : n.holds c = n.holds d :=
      h.node_eq n (hagree.mono fun _ => List.mem_append_left _)
    have hrest : Node.combined logic c rest = Node.combined logic d rest :=
      h.nodes_eq logic rest (hagree.mono fun _ => List.mem_append_right _)
    simp only [Node.combined, hfirst, hrest]

end

theorem group_eq (h : c.Alike d) {g : Group} (hagree : c.AgreeOn d g.fieldNames) :
    g.holds c = g.holds d := by
  apply h.node_eq
  apply hagree.mono
  intro field hfield
  simpa [Group.fieldNames] using hfield

end Context.Alike

end Reading
end Formwork
