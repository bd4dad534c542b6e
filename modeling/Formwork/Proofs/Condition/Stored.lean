import Formwork.Proofs.Condition.ReadSet
import Formwork.Proofs.Document.Kept
/-!
# Conditions that are stored and read again

What can be read as a tree of conditions and groups is made of conditions that are not misused, and
every such tree is read from its own document as it is: a condition is told from a group by the
entry for members, which the documents of groups have and those of conditions do not.
-/
namespace Formwork

open Document

/-! ## Names -/

theorem Operator.faithful : Named.Faithful Operator := by
  intro o
  cases o <;> rfl

theorem ValueType.faithful : Named.Faithful ValueType := by
  intro t
  cases t <;> rfl

theorem Source.faithful : Named.Faithful Source := by
  intro s
  cases s <;> rfl

theorem Logic.faithful : Named.Faithful Logic := by
  intro l
  cases l <;> rfl

/-! ## Conditions -/

variable {host : Host}

namespace Condition

theorem checked_eq_ok {c c' : Condition} :
    c.checked host = .ok c' ↔ c.misuse? host = .ok none ∧ c = c' := by
  unfold checked
  split
  · rename_i hsound
    simp [hsound]
  · rename_i hmisuse
    simp [hmisuse, Checked.broken, Checked.fault]
  · rename_i hfailed
    rw [hfailed]
    split <;> simp [Checked.broken, Checked.fault]

theorem misuse?_of_ofValue {v : Value} {c : Condition} (h : ofValue host v = .ok c) :
    c.misuse? host = .ok none := by
  obtain ⟨read, -, hchecked⟩ := Checked.andThen_eq_ok.mp h
  obtain ⟨hsound, rfl⟩ := checked_eq_ok.mp hchecked
  exact hsound

theorem read_document (c : Condition) : (fields.record "Condition").Reads c.document c := by
  have hfield : Decoder.text.Reads (.text c.field) c.field := fun _ => rfl
  have hvalue : Decoder.any.Reads c.value c.value := fun _ => rfl
  refine Fields.Reads.record ?_ _ rfl
  exact (hfield.orElse rfl).map Condition.mk
    |>.seq ((Decoder.oneOf_reads Operator.faithful c.operator).orElse rfl)
    |>.seq (hvalue.orElse rfl)
    |>.seq ((Decoder.oneOf_reads ValueType.faithful c.valueType).orElse rfl)
    |>.seq ((Decoder.oneOf_reads Source.faithful c.source).orElse rfl)

theorem ofValue_document {c : Condition} (h : c.misuse? host = .ok none) :
    ofValue host c.document = .ok c := by
  change ((fields.record "Condition" c.document {}).1.andThen (checked host)) = .ok c
  rw [c.read_document {}]
  exact checked_eq_ok.mpr ⟨h, rfl⟩

end Condition

/-! ## Groups -/

namespace Group

theorem nodes_of_ofEntries {es : Entries Value} {nodes : Checked (List Node)} {g : Group}
    (h : ofEntries es nodes = .ok g) : nodes = .ok g.nodes ∨ g.nodes = [] := by
  obtain ⟨-, hread⟩ := Checked.withFaults_eq_ok.mp h
  obtain ⟨make, members, hmake, hmembers, rfl⟩ := Checked.seq_eq_ok.mp hread
  obtain ⟨mk, logic, hmk, -, rfl⟩ := Checked.seq_eq_ok.mp hmake
  cases hmk
  -- The field of members gives what was read for it where an entry names them.
  cases hfound : es.get? Node.membersName with
  | some v =>
    have hgiven := hmembers.symm.trans (congrArg Prod.fst (Fields.orElse_of_some hfound _))
    exact .inl (Checked.under_eq_ok.mp hgiven.symm)
  | none =>
    have hgiven := hmembers.symm.trans (congrArg Prod.fst (Fields.orElse_of_none hfound _))
    exact .inr (Checked.ok.inj hgiven)

theorem read_entries (logic : Logic) (nodes : List Node) (v : Value) :
    ((fields (.ok nodes)).record "ConditionGroup").Reads
      (.map [("operator", ofNamed logic), (Node.membersName, v)]) ⟨logic, nodes⟩ := by
  have hmembers : (Decoder.pure fun _ => .ok nodes).Reads v nodes := fun _ => rfl
  refine Fields.Reads.record ?_ _ rfl
  exact ((Decoder.oneOf_reads Logic.faithful logic).orElse rfl).map Group.mk
    |>.seq (hmembers.orElse rfl)

theorem ofEntries_document (logic : Logic) (nodes : List Node) (v : Value) :
    ofEntries [("operator", ofNamed logic), (Node.membersName, v)] (.ok nodes) =
      .ok ⟨logic, nodes⟩ :=
  congrArg Prod.fst (read_entries logic nodes v {})

end Group

/-! ## Trees -/

mutual

theorem Node.sound_of_ofValue {n : Node} (v : Value) (h : Node.ofValue host v = .ok n) :
    ∀ c ∈ n.conditions, c.misuse? host = .ok none := by
  cases v with
  | map es =>
    unfold Node.ofValue at h
    cases hmembers : Node.membersOf host es with
    | some nodes =>
      simp only [hmembers, Checked.under_eq_ok, Checked.map_eq_ok] at h
      obtain ⟨g, hread, rfl⟩ := h
      exact Node.sound_of_membersOf es hmembers hread
    | none =>
      simp only [hmembers, Checked.under_eq_ok, Checked.map_eq_ok] at h
      obtain ⟨c, hread, rfl⟩ := h
      simpa [Node.conditions] using Condition.misuse?_of_ofValue hread
  | null | bool | int | float | text | list =>
    simp only [Node.ofValue, Checked.under_eq_ok, Checked.map_eq_ok] at h
    obtain ⟨c, hread, rfl⟩ := h
    simpa [Node.conditions] using Condition.misuse?_of_ofValue hread
termination_by structural v

theorem Node.sound_of_membersOf {es' : Entries Value} {nodes : Checked (List Node)} {g : Group}
    (es : List (String × Value))
    (h : Node.membersOf host es = some nodes) (hread : Group.ofEntries es' nodes = .ok g) :
    ∀ c ∈ g.node.conditions, c.misuse? host = .ok none := by
  cases es with
  | nil => cases h
  | cons e rest =>
    obtain ⟨name, v⟩ := e
    unfold Node.membersOf at h
    split at h
    · obtain rfl := Option.some.inj h
      rcases Group.nodes_of_ofEntries hread with hnodes | hnone
      · exact Node.sound_of_listOfValue v hnodes
      · simp [Group.node, Node.conditions, hnone, Node.allConditions]
    · exact Node.sound_of_membersOf rest h hread
termination_by structural es

theorem Node.sound_of_listOfValue {nodes : List Node} (v : Value)
    (h : Node.listOfValue host v = .ok nodes) :
    ∀ c ∈ Node.allConditions nodes, c.misuse? host = .ok none := by
  cases v with
  | list items => exact Node.sound_of_listFrom 0 items h
  | null | bool | int | float | text | map => cases h
termination_by structural v

theorem Node.sound_of_listFrom {nodes : List Node} (i : Nat) (items : List Value)
    (h : Node.listFrom host i items = .ok nodes) :
    ∀ c ∈ Node.allConditions nodes, c.misuse? host = .ok none := by
  cases items with
  | nil =>
    cases h
    simp [Node.allConditions]
  | cons v rest =>
    unfold Node.listFrom at h
    simp only [Checked.seq_eq_ok, Checked.map_eq_ok, Checked.under_eq_ok] at h
    obtain ⟨_, later, ⟨n, hn, rfl⟩, hlater, rfl⟩ := h
    simp only [Node.allConditions, List.mem_append]
    rintro c (hc | hc)
    · exact Node.sound_of_ofValue v hn c hc
    · exact Node.sound_of_listFrom (i + 1) rest hlater c hc
termination_by structural items

end

mutual

theorem Node.ofValue_document (n : Node) (sound : ∀ c ∈ n.conditions, c.misuse? host = .ok none) :
    Node.ofValue host n.document = .ok n := by
  cases n with
  | leaf c =>
    have hread := Condition.ofValue_document (sound c (by simp [Node.conditions]))
    have hnone : Node.membersOf host [("field_id", .text c.field), ("operator", ofNamed c.operator),
      ("value", c.value), ("value_type", ofNamed c.valueType), ("source", ofNamed c.source)] =
        none := rfl
    simp only [Node.document, Condition.document, Node.ofValue, hnone]
    change ((Condition.ofValue host c.document).map Node.leaf).under _ = _
    rw [hread]
    rfl
  | group logic nodes =>
    have hnodes := Node.listFrom_documents 0 nodes sound
    have hmembers : Node.membersOf host [("operator", ofNamed logic),
        (Node.membersName, .list (Node.documents nodes))] = some (.ok nodes) :=
      congrArg some hnodes
    simp only [Node.document, Node.ofValue, hmembers, Group.ofEntries_document]
    rfl
termination_by structural n

theorem Node.listFrom_documents (i : Nat) (nodes : List Node)
    (sound : ∀ c ∈ Node.allConditions nodes, c.misuse? host = .ok none) :
    Node.listFrom host i (Node.documents nodes) = .ok nodes := by
  cases nodes with
  | nil => rfl
  | cons n rest =>
    simp only [Node.allConditions, List.mem_append, or_imp, forall_and] at sound
    have hfirst := Node.ofValue_document n sound.1
    have hrest := Node.listFrom_documents (i + 1) rest sound.2
    simp only [Node.documents, Node.listFrom, hfirst, hrest]
    rfl
termination_by structural nodes

end

namespace Group

theorem sound_of_ofValue {v : Value} {g : Group} (h : ofValue host v = .ok g) :
    ∀ c ∈ g.node.conditions, c.misuse? host = .ok none := by
  cases v with
  | map es =>
    cases hmembers : Node.membersOf host es with
    | some nodes =>
      simp only [ofValue, hmembers, Option.getD_some] at h
      exact Node.sound_of_membersOf es hmembers h
    | none =>
      simp only [ofValue, hmembers, Option.getD_none] at h
      have hnone : g.nodes = [] := by
        rcases nodes_of_ofEntries h with hnodes | hnone
        · exact (Checked.ok.inj hnodes).symm
        · exact hnone
      simp [node, Node.conditions, hnone, Node.allConditions]
  | null | bool | int | float | text | list => cases h

theorem ofValue_document {g : Group} (sound : ∀ c ∈ g.node.conditions, c.misuse? host = .ok none) :
    ofValue host g.document = .ok g := by
  have hmembers : Node.membersOf host [("operator", ofNamed g.logic),
      (Node.membersName, .list (Node.documents g.nodes))] = some (.ok g.nodes) :=
    congrArg some (Node.listFrom_documents 0 g.nodes sound)
  simp only [document, node, Node.document, ofValue, hmembers, Option.getD_some,
    ofEntries_document]

/-- The groups that some document stands for are those whose conditions are not misused. -/
theorem exists_ofValue_iff {g : Group} :
    (∃ v, ofValue host v = .ok g) ↔ ∀ c ∈ g.node.conditions, c.misuse? host = .ok none :=
  ⟨fun ⟨_, h⟩ => sound_of_ofValue h, fun sound => ⟨_, ofValue_document sound⟩⟩

/-- Whatever document a group was read from, its own document is read, and as the same tree: the
same conditions and groups at the same places. -/
theorem survives_storing {v : Value} {g : Group} {ids ids' : Ids}
    (h : decoder host v ids = (.ok g, ids')) (later : Ids) :
    decoder host g.document later = (.ok g, later) := by
  have hread : ofValue host v = .ok g := congrArg Prod.fst h
  have hsame : ofValue host g.document = .ok g := ofValue_document (sound_of_ofValue hread)
  exact congrArg (·, later) hsame

/-- A group whose first member is a condition that is given the document of a group to compare
with, and whose second is a group that only asks for a pattern. -/
theorem survives_storing_nested :
    let given : Value := .map [("operator", .text "OR"), ("conditions", .list [])]
    let asked : Value := .map [("field_id", .text "kind"), ("operator", .text "equals"),
      ("value", given)]
    let matched : Value := .map [("field_id", .text "name"),
      ("operator", .text "matches_pattern"), ("value", .text "a+")]
    let within : Value := .map [("operator", .text "OR"), ("conditions", .list [matched])]
    let g : Group := ⟨.all, [.leaf ⟨"kind", .equals, given, .auto, .field⟩,
      .group .any [.leaf ⟨"name", .matchesPattern, .text "a+", .auto, .field⟩]]⟩
    decoder {} (.map [("conditions", .list [asked, within])]) {} = (.ok g, {}) ∧
      decoder {} g.document {} = (.ok g, {}) := by
  intro given asked matched within g
  have hread : decoder {} (.map [("conditions", .list [asked, within])]) {} = (.ok g, {}) := rfl
  exact ⟨hread, survives_storing hread {}⟩

end Group
end Formwork
