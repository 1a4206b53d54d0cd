import FunctionBindings.Model.Program
import FunctionBindings.Proofs.Model.Constants
import FunctionBindings.Proofs.Model.TypeRefs

/-!
# Reading programs back

The text of a program reads as that program. Every record of the model is written with all of its
fields in order, so each is read back if the values of its fields are. The only values that are not
always written exactly are doubles, and they occur only among the literals in attributes. The only
other limit is that of the reader on nesting. Main statement: `Program.ofText_text`.
-/

namespace FunctionBindings

open Json (ReadsBack)

/-- A span is read back. -/
theorem Span.readsBack (span : Span) : ReadsBack read span.toJson span :=
  .record (.cons (.offset span.start) (.cons (.offset span.stop) .nil)) (by decide)

/-- A named argument without doubles is read back. -/
theorem NamedArgument.readsBack {argument : NamedArgument}
    (h : ∀ x, .float x ∉ argument.value.scalars) :
    ReadsBack read argument.toJson argument := by
  have hname := ReadsBack.string argument.name
  have hvalue := Constant.readsBack h
  exact .record (.cons hname (.cons hvalue .nil)) (by decide)

/-- The literals in the arguments of an attribute. -/
def Attribute.scalars (attr : Attribute) : List Scalar :=
  (attr.arguments ++ attr.namedArguments.map (·.value)).flatMap Constant.scalars

/-- An attribute without doubles is read back. -/
theorem Attribute.readsBack {attr : Attribute} (h : ∀ x, .float x ∉ attr.scalars) :
    ReadsBack read attr.toJson attr := by
  have hname := ReadsBack.string attr.name
  have harguments : ReadsBack (Json.readList Constant.reader)
      (.array (Constant.toJsons attr.arguments)) attr.arguments := by
    rw [Constant.toJsons_eq_map]
    refine .list fun constant hconstant ↦ Constant.readsBack fun x hx ↦ h x ?_
    exact List.mem_flatMap.2 ⟨constant, List.mem_append_left _ hconstant, hx⟩
  have hnamed : ReadsBack (Json.readList NamedArgument.read)
      (.array (attr.namedArguments.map NamedArgument.toJson)) attr.namedArguments := by
    refine .list fun argument hargument ↦ NamedArgument.readsBack fun x hx ↦ h x ?_
    exact List.mem_flatMap.2 ⟨argument.value,
      List.mem_append_right _ (List.mem_map_of_mem hargument), hx⟩
  have hspan := Span.readsBack attr.span
  exact .record (.cons hname (.cons harguments (.cons hnamed (.cons hspan .nil)))) (by decide)

/-- Attributes without doubles are read back. -/
theorem Attribute.readsBack_list {attributes : List Attribute}
    (h : ∀ x, .float x ∉ attributes.flatMap scalars) :
    ReadsBack (Json.readList read) (.array (attributes.map toJson)) attributes :=
  .list fun attr hattr ↦ readsBack fun x hx ↦ h x (List.mem_flatMap.2 ⟨attr, hattr, hx⟩)

/-- An attribute type is read back. -/
theorem AttributeType.readsBack (type : AttributeType) : ReadsBack read type.toJson type := by
  have hname := ReadsBack.string type.name
  have hbase := ReadsBack.stringOrNull type.base
  have hconstructors : ReadsBack (Json.readList (Json.readList Json.readString))
      (.array (type.constructors.map .strings)) type.constructors :=
    .list fun params _ ↦ .strings params
  have hmarkers := ReadsBack.strings type.markers
  have hspan := Span.readsBack type.span
  exact .record (.cons hname (.cons hbase (.cons hconstructors (.cons hmarkers
    (.cons hspan .nil))))) (by decide)

/-- A parameter without doubles is read back. -/
theorem Parameter.readsBack {param : Parameter}
    (h : ∀ x, .float x ∉ param.attributes.flatMap Attribute.scalars) :
    ReadsBack read param.toJson param := by
  have hname := ReadsBack.string param.name
  have htype := TypeRef.readsBack param.type
  have hattributes := Attribute.readsBack_list h
  have hspan := Span.readsBack param.span
  exact .record (.cons hname (.cons htype (.cons hattributes (.cons hspan .nil)))) (by decide)

/-- A member without doubles is read back. -/
theorem Member.readsBack {member : Member}
    (h : ∀ x, .float x ∉ member.attributes.flatMap Attribute.scalars) :
    ReadsBack read member.toJson member := by
  have hname := ReadsBack.string member.name
  have htype := TypeRef.readsBack member.type
  have hattributes := Attribute.readsBack_list h
  have hspan := Span.readsBack member.span
  exact .record (.cons hname (.cons htype (.cons hattributes (.cons hspan .nil)))) (by decide)

/-- The attributes of a method and of its parameters. -/
def Method.allAttributes (method : Method) : List Attribute :=
  method.attributes ++ method.params.flatMap (·.attributes)

/-- A method without doubles is read back. -/
theorem Method.readsBack {method : Method}
    (h : ∀ x, .float x ∉ method.allAttributes.flatMap Attribute.scalars) :
    ReadsBack read method.toJson method := by
  rw [allAttributes, List.flatMap_append] at h
  have hname := ReadsBack.string method.name
  have hattributes : ReadsBack (Json.readList Attribute.read)
      (.array (method.attributes.map Attribute.toJson)) method.attributes :=
    Attribute.readsBack_list fun x hx ↦ h x (List.mem_append_left _ hx)
  have hparams : ReadsBack (Json.readList Parameter.read)
      (.array (method.params.map Parameter.toJson)) method.params := by
    refine .list fun param hparam ↦ Parameter.readsBack fun x hx ↦ h x ?_
    rw [List.flatMap_assoc]
    exact List.mem_append_right _ (List.mem_flatMap.2 ⟨param, hparam, hx⟩)
  have htype := TypeRef.readsBack method.returnType
  have hspan := Span.readsBack method.span
  exact .record (.cons hname (.cons hattributes (.cons hparams (.cons htype
    (.cons hspan .nil))))) (by decide)

/-- The attributes of a declared type's members and methods. -/
def DeclaredType.allAttributes (type : DeclaredType) : List Attribute :=
  type.members.flatMap (·.attributes) ++ type.methods.flatMap Method.allAttributes

/-- A declared type without doubles is read back. -/
theorem DeclaredType.readsBack {type : DeclaredType}
    (h : ∀ x, .float x ∉ type.allAttributes.flatMap Attribute.scalars) :
    ReadsBack read type.toJson type := by
  rw [allAttributes, List.flatMap_append, List.flatMap_assoc, List.flatMap_assoc] at h
  have hname := ReadsBack.string type.name
  have hnamespace := ReadsBack.stringOrNull type.namespaceName
  have hfile := ReadsBack.stringOrNull type.file
  have hmembers : ReadsBack (Json.readList Member.read)
      (.array (type.members.map Member.toJson)) type.members := by
    refine .list fun member hmember ↦ Member.readsBack fun x hx ↦ h x ?_
    exact List.mem_append_left _ (List.mem_flatMap.2 ⟨member, hmember, hx⟩)
  have hmethods : ReadsBack (Json.readList Method.read)
      (.array (type.methods.map Method.toJson)) type.methods := by
    refine .list fun method hmethod ↦ Method.readsBack fun x hx ↦ h x ?_
    exact List.mem_append_right _ (List.mem_flatMap.2 ⟨method, hmethod, hx⟩)
  have hspan := Span.readsBack type.span
  exact .record (.cons hname (.cons hnamespace (.cons hfile (.cons hmembers (.cons hmethods
    (.cons hspan .nil)))))) (by decide)

/-- The literals in a program: those in the attributes of members, methods and parameters. -/
def Program.scalars (program : Program) : List Scalar :=
  (program.types.flatMap DeclaredType.allAttributes).flatMap Attribute.scalars

/-- A program without doubles is read back. -/
theorem Program.readsBack {program : Program} (h : ∀ x, .float x ∉ program.scalars) :
    ReadsBack read program.toJson program := by
  rw [scalars, List.flatMap_assoc] at h
  have hassembly := ReadsBack.string program.assembly
  have hattributeTypes : ReadsBack (Json.readList AttributeType.read)
      (.array (program.attributeTypes.map AttributeType.toJson)) program.attributeTypes :=
    .list fun type _ ↦ type.readsBack
  have htypes : ReadsBack (Json.readList DeclaredType.read)
      (.array (program.types.map DeclaredType.toJson)) program.types := by
    refine .list fun type htype ↦ DeclaredType.readsBack fun x hx ↦ h x ?_
    exact List.mem_flatMap.2 ⟨type, htype, hx⟩
  exact .record (.cons hassembly (.cons hattributeTypes (.cons htypes .nil))) (by decide)

/-- The text of a program without doubles reads as that program, unless it is nested beyond the
limit of the reader. -/
theorem Program.ofText_text {program : Program} (hfloats : ∀ x, .float x ∉ program.scalars)
    (hdepth : program.toJson.depth ≤ Json.depthLimit) :
    Program.read.ofText program.text = .ok program :=
  (Program.readsBack hfloats).ofText hdepth

namespace ShopProgram

/-- An attribute with constants of every kind, one of them the least integer. -/
def attr : Attribute where
  name := "Shop.TableAttribute"
  arguments := [.string "a\n\"😀", .scalar (.int (-9223372036854775808)), .scalar .null,
    .array [.array [.scalar (.bool true), .array []], .member "Function"]]
  namedArguments := [⟨"Source", .typeOf "System.String"⟩]
  span := ⟨12, 18446744073709551615⟩

/-- A member whose type has arrays and type arguments inside type arguments. -/
def member : Member where
  name := "Rows"
  type := .named "Map" [.named "string" [], .array (.named "List" [.void, .unresolved "Row?"])]
  attributes := [attr]
  span := .unknown

/-- A program with an attribute type, and with a type in a namespace that has no file. -/
def program : Program where
  assembly := "Shop"
  attributeTypes := [⟨"TableAttribute", some "OutputBinding", [[], ["name"]], [""], .unknown⟩]
  types := [⟨"Orders", some "Shop", none, [member],
    [⟨"Run", [attr], [⟨"order", .array (.named "byte" []), [attr], ⟨0, 1⟩⟩], .void, ⟨3, 9⟩⟩],
    .unknown⟩]

/-- The text of the program reads as the program. -/
theorem ofText_text_program :
    (∀ x, .float x ∉ program.scalars) ∧ program.toJson.depth ≤ Json.depthLimit ∧
      Program.read.ofText program.text = .ok program := by
  have hfloats : ∀ x, .float x ∉ program.scalars := by
    simp [program, member, attr, Program.scalars, DeclaredType.allAttributes, Method.allAttributes,
      Attribute.scalars, Constant.scalars, Constant.scalarsOf, Constant.string]
  have hdepth : program.toJson.depth ≤ Json.depthLimit := by decide
  exact ⟨hfloats, hdepth, Program.ofText_text hfloats hdepth⟩

end ShopProgram

end FunctionBindings
