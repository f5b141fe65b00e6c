import QueryLint.Proofs.Schema.Extensions
import QueryLint.Proofs.Schema.Kinds
import QueryLint.Proofs.Schema.Resolution
import QueryLint.Proofs.Schema.Wrappers

/-!
# Members that no look-up sees

A type has three tables of members, whatever its kind. `TypeDef.fitted` empties those that do not go
with its kind, and every look-up goes through on a fitted type as it does on the type itself. Main
statements: `Schema.answersAlike_of_fitted_eq`, that schemas answer alike if they are the same when
fitted, and `Schema.exists_ofDefinitions_withoutMisfits`, that such a schema is left when the
extensions whose members do not go with their type are taken out of the definitions.
-/

namespace QueryLint

open QueryLint.Language

/-! ## Fitted types -/

/-- The type with no members but those that go with its kind. -/
def TypeDef.fitted (type : TypeDef) : TypeDef :=
  { type with
    fields := if type.kind.hasFields then type.fields else .empty
    inputFields := if type.kind = .inputObject then type.inputFields else .empty
    enumValues := if type.kind = .enum then type.enumValues else .empty }

namespace TypeDef

variable (type : TypeDef) (name : String)

@[simp] theorem name_fitted : type.fitted.name = type.name := rfl

@[simp] theorem kind_fitted : type.fitted.kind = type.kind := rfl

@[simp] theorem fieldMap_fitted : type.fitted.fieldMap = type.fieldMap := by
  cases h : type.kind.hasFields <;> simp [fieldMap, fitted, h]

@[simp] theorem field?_fitted : type.fitted.field? name = type.field? name := by
  simp [field?]

@[simp] theorem selectable?_fitted : type.fitted.selectable? name = type.selectable? name := by
  simp [selectable?]

@[simp] theorem inputField?_fitted : type.fitted.inputField? name = type.inputField? name := by
  by_cases h : type.kind = .inputObject <;> simp [inputField?, fitted, h]

@[simp] theorem enumValue?_fitted : type.fitted.enumValue? name = type.enumValue? name := by
  by_cases h : type.kind = .enum <;> simp [enumValue?, fitted, h]

/-- The types that fit are those that are not changed. -/
theorem fitted_eq_self_iff : type.fitted = type ↔ type.Fits := by
  rw [fits_iff]
  obtain ⟨name, kind, description, fields, inputFields, enumValues⟩ := type
  cases kind <;> simp [fitted, TypeKind.hasFields, eq_comm]

end TypeDef

/-- The resolved type with its innermost type fitted. -/
def ResolvedType.fitted : ResolvedType → ResolvedType
  | named type => named type.fitted
  | list item => list item.fitted
  | nonNull inner => nonNull inner.fitted

namespace ResolvedType

variable (type : ResolvedType)

@[simp] theorem namedType_fitted : type.fitted.namedType = type.namedType.fitted := by
  induction type with
  | named type => rfl
  | list inner ih | nonNull inner ih => exact ih

@[simp] theorem itemType_fitted : type.fitted.itemType = type.itemType.fitted := by
  cases type with
  | named type => rfl
  | list item => rfl
  | nonNull inner => cases inner <;> rfl

@[simp] theorem parentType?_fitted :
    type.fitted.parentType? = type.parentType?.map TypeDef.fitted := by
  unfold parentType?
  rw [namedType_fitted, TypeDef.kind_fitted]
  split <;> rfl

@[simp] theorem offers_fitted (name : String) : type.fitted.offers name = type.offers name := by
  rw [offers_eq_any_fieldMap, offers_eq_any_fieldMap, namedType_fitted, TypeDef.fieldMap_fitted]

end ResolvedType

/-! ## Fitted schemas -/

/-- The schema with all its types fitted. -/
def Schema.fitted (schema : Schema) : Schema :=
  { schema with types := schema.types.map TypeDef.fitted }

namespace Schema

variable (schema : Schema)

@[simp] theorem type?_fitted (name : String) :
    schema.fitted.type? name = (schema.type? name).map TypeDef.fitted :=
  Table.get?_map TypeDef.fitted schema.types name

@[simp] theorem directive?_fitted (name : String) :
    schema.fitted.directive? name = schema.directive? name := rfl

@[simp] theorem root?_fitted (kind : OperationKind) :
    schema.fitted.root? kind = (schema.root? kind).map TypeDef.fitted := by
  unfold root?
  rw [Option.map_bind]
  exact congrArg _ (funext fun name ↦ schema.type?_fitted name)

@[simp] theorem resolve?_fitted (type : TypeRef) :
    schema.fitted.resolve? type = (schema.resolve? type).map ResolvedType.fitted := by
  induction type with
  | named name =>
      simp only [resolve?, type?_fitted, Option.map_map]
      rfl
  | list item ih | nonNull item ih =>
      simp only [resolve?, ih, Option.map_map]
      rfl

@[simp] theorem operationType?_fitted (kind : OperationKind) :
    schema.fitted.operationType? kind =
      (schema.operationType? kind).map ResolvedType.fitted := by
  simp only [operationType?, root?_fitted, Option.filter_map, Option.map_map]
  rfl

@[simp] theorem conditionType?_fitted (name : String) :
    schema.fitted.conditionType? name =
      (schema.conditionType? name).map ResolvedType.fitted := by
  simp only [conditionType?, type?_fitted, Option.filter_map, Option.map_map]
  rfl

@[simp] theorem outputType?_fitted (type : TypeRef) :
    schema.fitted.outputType? type = (schema.outputType? type).map ResolvedType.fitted := by
  simp only [outputType?, resolve?_fitted, Option.filter_map, Function.comp_def,
    ResolvedType.namedType_fitted, TypeDef.kind_fitted]

@[simp] theorem inputType?_fitted (type : TypeRef) :
    schema.fitted.inputType? type = (schema.inputType? type).map ResolvedType.fitted := by
  simp only [inputType?, resolve?_fitted, Option.filter_map, Function.comp_def,
    ResolvedType.namedType_fitted, TypeDef.kind_fitted]

end Schema

/-! ## What schemas answer -/

/-- All members that can be looked up on the two types are the same. -/
structure TypeDef.AnswersAlike (type other : TypeDef) : Prop where
  fitted : type.fitted = other.fitted
  field? : ∀ name, type.field? name = other.field? name
  selectable? : ∀ name, type.selectable? name = other.selectable? name
  inputField? : ∀ name, type.inputField? name = other.inputField? name
  enumValue? : ∀ name, type.enumValue? name = other.enumValue? name

/-- The two types have the same layers around alike types, and offer the same fields. -/
structure ResolvedType.AnswersAlike (type other : ResolvedType) : Prop where
  fitted : type.fitted = other.fitted
  named : type.namedType.AnswersAlike other.namedType
  offers : ∀ name, type.offers name = other.offers name

/-- Whatever is asked of the two schemas, their answers are alike. -/
structure Schema.AnswersAlike (schema other : Schema) : Prop where
  type? : ∀ name, Option.Rel TypeDef.AnswersAlike (schema.type? name) (other.type? name)
  directive? : ∀ name, schema.directive? name = other.directive? name
  root? : ∀ kind, Option.Rel TypeDef.AnswersAlike (schema.root? kind) (other.root? kind)
  resolve? : ∀ type,
    Option.Rel ResolvedType.AnswersAlike (schema.resolve? type) (other.resolve? type)

theorem TypeDef.answersAlike_of_fitted_eq (type other : TypeDef)
    (h : type.fitted = other.fitted) : type.AnswersAlike other where
  fitted := h
  field? name := by rw [← type.field?_fitted, h, field?_fitted]
  selectable? name := by rw [← type.selectable?_fitted, h, selectable?_fitted]
  inputField? name := by rw [← type.inputField?_fitted, h, inputField?_fitted]
  enumValue? name := by rw [← type.enumValue?_fitted, h, enumValue?_fitted]

theorem ResolvedType.answersAlike_of_fitted_eq (type other : ResolvedType)
    (h : type.fitted = other.fitted) : type.AnswersAlike other where
  fitted := h
  named := by
    refine TypeDef.answersAlike_of_fitted_eq _ _ ?_
    rw [← type.namedType_fitted, h, namedType_fitted]
  offers name := by rw [← type.offers_fitted, h, offers_fitted]

namespace Schema

/-- Schemas that are the same when fitted answer alike. -/
theorem answersAlike_of_fitted_eq {schema other : Schema} (h : schema.fitted = other.fitted) :
    schema.AnswersAlike other where
  type? name := by
    refine option_rel_of_map_eq ?_ TypeDef.answersAlike_of_fitted_eq
    rw [← schema.type?_fitted, h, type?_fitted]
  directive? name := by rw [← schema.directive?_fitted, h, directive?_fitted]
  root? kind := by
    refine option_rel_of_map_eq ?_ TypeDef.answersAlike_of_fitted_eq
    rw [← schema.root?_fitted, h, root?_fitted]
  resolve? type := by
    refine option_rel_of_map_eq ?_ ResolvedType.answersAlike_of_fitted_eq
    rw [← schema.resolve?_fitted, h, resolve?_fitted]

end Schema

/-! ## Extensions with members of another kind -/

/-- Whether the members of a body go with a kind of type. -/
def TypeKind.takes (kind : TypeKind) : TypeBody → Bool
  | .object _ _ | .interface _ _ => kind.hasFields
  | .enum _ => kind = .enum
  | .input _ => kind = .inputObject
  | .union _ => kind = .union
  | .scalar => kind = .scalar

namespace TypeDef

/-- Members of another kind do not show on the fitted type. -/
theorem fitted_addMembers_of_not_takes {type : TypeDef} {body : TypeBody}
    (h : type.kind.takes body = false) : (type.addMembers body).fitted = type.fitted := by
  obtain ⟨name, kind, description, fields, inputFields, enumValues⟩ := type
  -- The kind says which tables are emptied, and the body which one is written to.
  cases kind <;> cases body <;> first | rfl | cases h

/-- Members are added to a type as they are to any that is the same when fitted. -/
theorem fitted_addMembers_congr {type other : TypeDef} (h : type.fitted = other.fitted)
    (body : TypeBody) : (type.addMembers body).fitted = (other.addMembers body).fitted := by
  have hfitted (type : TypeDef) :
      (type.addMembers body).fitted = (type.fitted.addMembers body).fitted := by
    obtain ⟨name, kind, description, fields, inputFields, enumValues⟩ := type
    cases kind <;> cases body <;> rfl
  rw [hfitted, h, ← hfitted]

end TypeDef

namespace Schema

/-- Whether a definition is anything but an extension whose members do not go with the kind of the
type that it names. -/
def suits (schema : Schema) : Definition → Bool
  | .extendType extension =>
    (schema.type? extension.name.text).all (·.kind.takes extension.body)
  | _ => true

/-- The definitions without the extensions whose members do not go with the kind of their type. -/
def withoutMisfits (schema : Schema) (definitions : List Definition) : List Definition :=
  definitions.filter schema.suits

end Schema

/-! ## Definitions without misfits -/

namespace Schema

variable {definitions : List Definition} {schema : Schema}

/-- What is not read off extensions is read as before. -/
theorem filterMap_withoutMisfits {α : Type} {get : Definition → Option α}
    (h : ∀ extension, get (.extendType extension) = none) :
    (schema.withoutMisfits definitions).filterMap get = definitions.filterMap get := by
  rw [withoutMisfits, List.filterMap_filter]
  refine List.filterMap_congr fun definition _ ↦ ?_
  cases definition with
  | extendType extension =>
      rw [h]
      split <;> rfl
  | operation | fragment | schema | directive | type | extendSchema => rfl

theorem extensions_cons (name : String) (definition : Definition) (rest : List Definition) :
    extensions name (definition :: rest) =
      (definition.extensionOf? name).toList ++ extensions name rest := by
  rw [extensions, List.filterMap_cons]
  cases definition.extensionOf? name <;> rfl

/-- A definition that is taken out and extends a type does so with members of another kind. -/
theorem not_takes_of_not_suits {name : String} {type : TypeDef} {definition : Definition}
    {body : TypeBody} (htype : schema.type? name = some type)
    (hbody : definition.extensionOf? name = some body) (h : ¬ schema.suits definition = true) :
    type.kind.takes body = false := by
  cases definition with
  | extendType extension =>
      simp only [Definition.extensionOf?, Option.ite_none_right_eq_some,
        Option.some.injEq] at hbody
      obtain ⟨rfl, rfl⟩ := hbody
      simpa [suits, htype] using h
  | operation | fragment | schema | directive | type | extendSchema => cases hbody

/-- The fitted type does not have what is added by extensions that are taken out. -/
theorem fitted_foldl_extensions_withoutMisfits {name : String} {found type other : TypeDef}
    (hfound : schema.type? name = some found) (hkind : type.kind = found.kind)
    (hsame : type.fitted = other.fitted) :
    ((extensions name definitions).foldl TypeDef.addMembers type).fitted =
      ((extensions name (schema.withoutMisfits definitions)).foldl TypeDef.addMembers
        other).fitted := by
  -- The second type need not be the first: it lacks what was taken out before.
  induction definitions generalizing type other with
  | nil => exact hsame
  | cons definition rest ih =>
      have hextended (body : TypeBody) : (type.addMembers body).kind = found.kind :=
        (type.kind_addMembers body).trans hkind
      rw [extensions_cons, List.foldl_append]
      by_cases hsuits : schema.suits definition = true
      · have hkept : schema.withoutMisfits (definition :: rest) =
            definition :: schema.withoutMisfits rest :=
          List.filter_cons_of_pos hsuits
        rw [hkept, extensions_cons, List.foldl_append]
        cases definition.extensionOf? name with
        | none => exact ih hkind hsame
        | some body => exact ih (hextended body) (TypeDef.fitted_addMembers_congr hsame body)
      · have hdropped : schema.withoutMisfits (definition :: rest) =
            schema.withoutMisfits rest :=
          List.filter_cons_of_neg hsuits
        rw [hdropped]
        cases hbody : definition.extensionOf? name with
        | none => exact ih hkind hsame
        | some body =>
            have htakes := not_takes_of_not_suits hfound hbody hsuits
            rw [← hkind] at htakes
            exact ih (hextended body)
              ((TypeDef.fitted_addMembers_of_not_takes htakes).trans hsame)

/-- Under every name the same type is declared, but for members that do not go with its kind. -/
theorem map_fitted_declaredType?_withoutMisfits (h : ofDefinitions definitions = .ok schema)
    (name : String) :
    (declaredType? definitions name).map TypeDef.fitted =
      (declaredType? (schema.withoutMisfits definitions) name).map TypeDef.fitted := by
  have htypes : (schema.withoutMisfits definitions).filterMap Definition.type? =
      definitions.filterMap Definition.type? :=
    filterMap_withoutMisfits fun _ ↦ rfl
  have htype := type?_of_ofDefinitions h name
  rw [declaredType?] at htype
  rw [declaredType?, declaredType?, htypes]
  cases hfound : (definitions.filterMap Definition.type?).find? (·.name.text = name) with
  | none => rfl
  | some definition =>
      rw [hfound] at htype
      have hkind := TypeDef.kind_foldl_addMembers (.ofDefinition definition)
        (extensions name definitions)
      exact congrArg some (fitted_foldl_extensions_withoutMisfits htype hkind.symm rfl)

/-- If definitions define a schema, they define one that is the same when fitted without the
extensions whose members do not go with the kind of their type. -/
theorem exists_ofDefinitions_withoutMisfits (h : ofDefinitions definitions = .ok schema) :
    ∃ other, ofDefinitions (schema.withoutMisfits definitions) = .ok other ∧
      schema.fitted = other.fitted := by
  have htypeNames : typeNames (schema.withoutMisfits definitions) = typeNames definitions := by
    rw [typeNames, filterMap_withoutMisfits fun _ ↦ rfl, typeNames]
  have hdirectives : definitions.filterMap Definition.directive? =
      (schema.withoutMisfits definitions).filterMap Definition.directive? :=
    (filterMap_withoutMisfits fun _ ↦ rfl).symm
  have hschemas : (schema.withoutMisfits definitions).filterMap Definition.schema? =
      definitions.filterMap Definition.schema? :=
    filterMap_withoutMisfits fun _ ↦ rfl
  obtain ⟨other, hother⟩ :
      ∃ other, ofDefinitions (schema.withoutMisfits definitions) = .ok other := by
    obtain ⟨hnodup, hextensions, hroots⟩ := (exists_ofDefinitions_iff definitions).mp ⟨schema, h⟩
    rw [exists_ofDefinitions_iff, htypeNames, directiveNames, ← hdirectives, rootNames, hschemas]
    exact ⟨hnodup, fun extension hmem ↦ hextensions extension (List.mem_filter.mp hmem).1, hroots⟩
  refine ⟨other, hother, ?_⟩
  have htypes : schema.types.map TypeDef.fitted = other.types.map TypeDef.fitted := by
    refine Table.eq_of_keys_of_get? ?_ fun name ↦ ?_
    · rw [Table.keys_map, Table.keys_map, (lists_of_ofDefinitions h).types,
        (lists_of_ofDefinitions hother).types, htypeNames]
    · rw [Table.get?_map, Table.get?_map]
      show (schema.type? name).map TypeDef.fitted = (other.type? name).map TypeDef.fitted
      simp only [type?_of_ofDefinitions h, type?_of_ofDefinitions hother,
        Option.orElse_eq_orElse, Option.orElse_eq_or, Option.map_or,
        map_fitted_declaredType?_withoutMisfits h]
  have hroots : schema.roots = other.roots := by
    have hcontains (name : String) : schema.types.contains name = other.types.contains name := by
      have hkeys := congrArg (Table.contains · name) htypes
      simpa [Table.contains] using hkeys
    have hchosen := chosenRoots_of_ofDefinitions h
    rw [declaredEntries?, ← hschemas, chosenRoots_congr hcontains] at hchosen
    exact Except.ok.inj (hchosen.symm.trans (chosenRoots_of_ofDefinitions hother))
  rw [fitted, fitted, htypes, hroots, directives_eq_of_ofDefinitions h hother hdirectives]

end Schema

end QueryLint
