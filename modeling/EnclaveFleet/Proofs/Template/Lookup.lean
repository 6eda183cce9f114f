import EnclaveFleet.Proofs.Json.Fields
import EnclaveFleet.Template.Document
import Mathlib.Data.List.Nodup

/-!
# Finding resources in a document

* `resourcesOf`: the resources of a kind in a document
* `typesById`, `idsOf`: the types of all resources by their ids, and the ids of a kind
* `get_resources`, `get_parameters`: two sections of the document of a template
* `Kind.name_injective`: kinds can be told apart there
* `resourcesOf_document`, `typesById_document`, `idsOf_document`: they are those of the template
-/
namespace EnclaveFleet.Template
set_option autoImplicit false

def resourcesOf (document : Json) (kind : Kind) : List Json :=
  match document.get? "Resources" with
  | some (.object fields) =>
    (fields.map (·.2)).filter fun r => (r.get? "Type").any (·.isText kind.name)
  | _ => []

def typesById (document : Json) : List (String × Option Json) :=
  match document.get? "Resources" with
  | some (.object fields) => fields.map fun (id, r) => (id, r.get? "Type")
  | _ => []

def idsOf (document : Json) (kind : Kind) : List String :=
  ((typesById document).filter fun (_, type) => type.any (·.isText kind.name)).map (·.1)

/-! ## Kinds -/

def Kind.all : List Kind := [.network, .internetGateway, .gatewayAttachment, .subnet, .routeTable,
  .routeTableAssociation, .route, .address, .natGateway, .role, .policy, .instanceProfile,
  .securityGroup, .launchTemplate, .loadBalancer, .scalingGroup, .targetGroup, .listener]

theorem Kind.mem_all (k : Kind) : k ∈ Kind.all := by
  cases k <;> decide

theorem Kind.name_injective {k l : Kind} (h : k.name = l.name) : k = l := by
  have hnames : (Kind.all.map Kind.name).Nodup := by decide
  exact List.inj_on_of_nodup_map hnames k.mem_all l.mem_all h

theorem isText_name (k l : Kind) : (Json.text k.name).isText l.name = decide (k = l) := by
  rw [Json.isText]
  exact decide_eq_decide.mpr ⟨Kind.name_injective, congrArg Kind.name⟩

/-! ## Resources -/

theorem getLast_chapter {name : String} {fields : List (String × Json)} (h : fields ≠ []) :
    Json.getLast? name (chapter? name fields) = some (.object fields) := by
  have hempty : fields.isEmpty = false := by simpa using h
  rw [chapter?, hempty, if_neg (by decide), Json.getLast_cons_self]
  rfl

theorem getLast_chapter_of_ne {name other : String} (h : name ≠ other)
    (fields : List (String × Json)) : Json.getLast? name (chapter? other fields) = none := by
  rw [chapter?]
  split
  · rfl
  · rw [Json.getLast_cons_of_ne h]
    rfl

theorem get_resources (t : Template) :
    t.document.get? "Resources" =
      Json.getLast? "Resources" (chapter? "Resources" (t.resources.map fun r => (r.id, r.document))) := by
  have hrules : Json.getLast? "Resources" [("Rules", .object [("CheckBootstrapVersion",
      preparationRule)])] = none := Json.getLast_cons_of_ne (by decide) _ []
  have hdescription : Json.getLast? "Resources" (textField? "Description" t.description) = none := by
    cases t.description with
    | none => rfl
    | some text => exact Json.getLast_cons_of_ne (by decide) _ []
  have houtputs : Json.getLast? "Resources" (chapter? "Outputs"
      (t.outputs.map fun o => (o.id, o.document))) = none :=
    getLast_chapter_of_ne (by decide) _
  have hparameters : Json.getLast? "Resources" (chapter? "Parameters"
      ((preparation :: t.parameters).map fun p => (p.id, p.document))) = none :=
    getLast_chapter_of_ne (by decide) _
  rw [document, Json.get?, Json.getLast_append, Json.getLast_append, Json.getLast_append,
    Json.getLast_append, hrules, houtputs, hparameters, hdescription, Option.none_or,
    Option.none_or, Option.or_none, Option.or_none]

theorem get_parameters (t : Template) :
    t.document.get? "Parameters" =
      some (.object ((preparation :: t.parameters).map fun p => (p.id, p.document))) := by
  have hrules : Json.getLast? "Parameters" [("Rules", .object [("CheckBootstrapVersion",
      preparationRule)])] = none := Json.getLast_cons_of_ne (by decide) _ []
  have houtputs : Json.getLast? "Parameters" (chapter? "Outputs"
      (t.outputs.map fun o => (o.id, o.document))) = none :=
    getLast_chapter_of_ne (by decide) _
  have hresources : Json.getLast? "Parameters" (chapter? "Resources"
      (t.resources.map fun r => (r.id, r.document))) = none :=
    getLast_chapter_of_ne (by decide) _
  rw [document, Json.get?, Json.getLast_append, Json.getLast_append, Json.getLast_append,
    Json.getLast_append, hrules, houtputs, hresources, Option.none_or, Option.none_or,
    Option.none_or, getLast_chapter (by simp), Option.some_or]

theorem type_document (r : Resource) : r.document.get? "Type" = some (.text r.kind.name) := by
  have hupdate : Json.getLast? "Type" (if r.updatePolicy.isEmpty then []
      else [("UpdatePolicy", (Value.record r.updatePolicy).document)]) = none := by
    split
    · rfl
    · exact Json.getLast_cons_of_ne (by decide) _ []
  have hdepends : Json.getLast? "Type" (if r.dependsOn.isEmpty then []
      else [("DependsOn", .array (r.dependsOn.map .text))]) = none := by
    split
    · rfl
    · exact Json.getLast_cons_of_ne (by decide) _ []
  have hproperties : Json.getLast? "Type"
      [("Properties", (Value.record r.properties).document)] = none :=
    Json.getLast_cons_of_ne (by decide) _ []
  rw [Resource.document, Json.get?, Json.getLast_append, Json.getLast_append, Json.getLast_append,
    hupdate, hproperties, hdepends, Option.none_or, Option.none_or, Option.none_or,
    Json.getLast_cons_self]
  rfl

theorem resourcesOf_document (t : Template) (kind : Kind) :
    resourcesOf t.document kind = (t.ofKind kind).map Resource.document := by
  have htype : ∀ r : Resource,
      ((r.document.get? "Type").any (·.isText kind.name)) = decide (r.kind = kind) := by
    intro r
    rw [type_document, Option.any_some, isText_name]
  have hfilter : (t.resources.map Resource.document).filter
      (fun r => (r.get? "Type").any (·.isText kind.name)) =
      (t.ofKind kind).map Resource.document := by
    rw [List.filter_map, ofKind]
    exact congrArg (List.map Resource.document) (List.filter_congr fun r _ => htype r)
  rw [resourcesOf, get_resources]
  by_cases hnone : t.resources = []
  · rw [ofKind, hnone]
    rfl
  · have hvalues : (t.resources.map fun r => (r.id, r.document)).map (·.2) =
        t.resources.map Resource.document := by
      rw [List.map_map]
      rfl
    rw [getLast_chapter (by simpa using hnone), ← hfilter, ← hvalues]

/-! ## Ids -/

theorem typesById_document (t : Template) :
    typesById t.document = t.resources.map fun r => (r.id, some (.text r.kind.name)) := by
  rw [typesById, get_resources]
  by_cases hnone : t.resources = []
  · rw [hnone]
    rfl
  · rw [getLast_chapter (by simpa using hnone)]
    simp only [List.map_map, Function.comp_def, type_document]

theorem idsOf_document (t : Template) (kind : Kind) :
    idsOf t.document kind = (t.ofKind kind).map Resource.id := by
  rw [idsOf, typesById_document, List.filter_map, List.map_map, ofKind]
  simp only [Function.comp_def, Option.any_some, isText_name]

end EnclaveFleet.Template
