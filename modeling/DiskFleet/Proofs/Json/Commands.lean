import DiskFleet.Action
import DiskFleet.Image.Command
import DiskFleet.Proofs.Json.Record
import DiskFleet.Resource.Command

/-!
# Commands that are read back

A command is written as a request and read from one. A request can say the same in several ways: no
arguments are `null` or an empty object, fields stand in an object or one after the other in an
array, a field has a second name or is left out, and members that no field asks for are ignored. What
`toJson` writes is one of these ways, and reading it gives the command again.

`create`, `destroy` and `rebase` put the fields that they use themselves and the arguments that they
hand on into one object. They come apart again if nothing that is handed on has the name of a field
(`ImageCommand.Separate`), whose place it would take otherwise. A command that was read from a
request is always of that kind: what the fields took is left out of the rest.

## Main results

* `Request.decode_eq_ok_iff`: what an accepted request is made of;
* `ImageCommand.extraOf_toJson`: what is handed on, as it is read from an object in key order;
* `ImageCommand.separate_of_ofRequest`: a command that was read keeps its fields apart;
* `ImageCommand.exists_withExtra`: fields and what is handed on come apart again;
* `commands_survive_writing`: every command is read back as it was.
-/

namespace DiskFleet

open Record

/-! ## Requests -/

namespace Request

variable {α : Type} {target name : String} {args : Json} {value : α}
  {decode? : String → Option (Json → Option α)}

/-- **An accepted request** names a known command, and its arguments decode. -/
theorem decode_eq_ok_iff {request : Json} :
    decode target decode? request = .ok value ↔
      ∃ name args decodeArgs, split request = .ok (name, args) ∧
        decode? name = some decodeArgs ∧ decodeArgs args = some value := by
  constructor
  · intro h
    rw [decode, Action.bind_eq_ok_iff] at h
    obtain ⟨⟨name, args⟩, hSplit, h⟩ := h
    cases hName : decode? name with
    | none => simp [hName] at h
    | some decodeArgs =>
      cases hArgs : decodeArgs args with
      | none => simp [hName, hArgs] at h
      | some found =>
        simp only [hName, hArgs, Except.ok.injEq] at h
        exact ⟨name, args, decodeArgs, hSplit, hName, h ▸ hArgs⟩
  · rintro ⟨name, args, decodeArgs, hSplit, hName, hArgs⟩
    rw [decode, Action.bind_eq_ok_iff]
    exact ⟨(name, args), hSplit, by simp [hName, hArgs]⟩

theorem split_written (h : args ≠ .null) : split (.obj [(name, args)]) = .ok (name, args) := by
  cases args with
  | null => exact absurd rfl h
  | _ => rfl

/-- A request that was written is read by the reader of its command. -/
theorem decode_written (hArgs : args ≠ .null)
    (hValue : ((decode? name).bind fun decodeArgs => decodeArgs args) = some value) :
    decode target decode? (.obj [(name, args)]) = .ok value := by
  obtain ⟨decodeArgs, hName, hValue⟩ := Option.bind_eq_some_iff.1 hValue
  exact decode_eq_ok_iff.2 ⟨name, args, decodeArgs, split_written hArgs, hName, hValue⟩

end Request

/-! ## Arguments that are handed on -/

namespace Arguments

@[simp] theorem ofJson?_toJson (args : Arguments) : ofJson? args.toJson = some args := by
  rw [toJson, ofJson?, SortedMap.ofList_entries]

/-- Arguments are written as a record that has a field for each of them. -/
def fields (args : Arguments) : List (String × Option Json) :=
  args.entries.map fun entry => (entry.1, some entry.2)

theorem nodup_fields (args : Arguments) : (args.fields.map (·.1)).Nodup := by
  rw [fields, List.map_map]
  exact args.nodup_keys

theorem toJson_eq (args : Arguments) : args.toJson = .obj (written args.fields) := by
  rw [toJson, fields, written, List.filterMap_map]
  exact congrArg Json.obj List.filterMap_some.symm

/-- A field is found among the arguments like any of them. -/
theorem lookup_fields (args : Arguments) (name : String) :
    (args.fields.lookup name).join = args.get? name := by
  rw [fields, lookup_map_snd, SortedMap.get?]
  cases args.entries.lookup name <;> rfl

end Arguments

/-- **Parameters are read back.** -/
@[simp] theorem Params.ofJson?_toJson (params : Params) : ofJson? params.toJson = some params := by
  rw [ofJson?, toJson, Json.asMap?_ofSortedMap Json.asText?_str]
  rfl

/-! ## Commands for a resource -/

@[simp] theorem SizeArgument.ofJson?_toJson (size : SizeArgument) :
    ofJson? size.toJson = some size := by
  cases size with
  | bytes count => rw [toJson, ofJson?, Json.asWord64?_ofWord64]
  | human text => rfl

namespace ResourceCommand

theorem nodesOfJson?_written (nodes : List String) :
    nodesOfJson? (.obj [("nodes", .ofTexts nodes)]) = some nodes :=
  Json.asTexts?_ofTexts nodes

theorem sizeOfJson?_written (size : SizeArgument) :
    sizeOfJson? (.obj [("size", size.toJson)]) = some size :=
  SizeArgument.ofJson?_toJson size

theorem argsToJson_ne_null (command : ResourceCommand) : command.argsToJson ≠ .null := by
  cases command <;> exact fun h => by cases h

/-- **A command for a resource is read back**, whether or not a request asked for it. -/
theorem ofRequest_toJson (command : ResourceCommand) : ofRequest command.toJson = .ok command := by
  refine Request.decode_written command.argsToJson_ne_null ?_
  cases command with
  | bind nodes => exact congrArg (Option.map bind) (nodesOfJson?_written nodes)
  | unbind nodes => exact congrArg (Option.map unbind) (nodesOfJson?_written nodes)
  | allocate args => exact congrArg (Option.map allocate) args.ofJson?_toJson
  | release args => exact congrArg (Option.map release) args.ofJson?_toJson
  | sync args => exact congrArg (Option.map sync) args.ofJson?_toJson
  | resize size => exact congrArg (Option.map resize) (sizeOfJson?_written size)

end ResourceCommand

/-! ## Commands for an image -/

namespace ImageCommand

/-- **What is handed on, read from an object in key order**: its members but for the fields. -/
theorem extraOf_toJson (names : List String) (args : Arguments) :
    extraOf names args.toJson = args.filter fun name => !names.contains name :=
  SortedMap.ofList_entries (args.filter fun name => !names.contains name)

/-- Nothing that is handed on has the name of a field, whatever it is read from. -/
theorem get?_extraOf {names : List String} {name : String} (h : name ∈ names) (json : Json) :
    (extraOf names json).get? name = none := by
  have hKeys : name ∉ (extraOf names json).keys := by
    cases json with
    | obj members =>
      rw [extraOf, SortedMap.mem_keys_ofList]
      intro hMember
      obtain ⟨entry, hEntry, rfl⟩ := List.mem_map.1 hMember
      simp [h] at hEntry
    | _ => simp [extraOf, EmptyCollection.emptyCollection, SortedMap.keys, SortedMap.empty]
  rw [← SortedMap.contains_iff_mem_keys, SortedMap.contains] at hKeys
  exact Option.not_isSome_iff_eq_none.1 hKeys

/-- The fields of `rebase`, by their names. -/
def rebaseNames : List String := ["target", "target_params", "nodes"]

/-- Whether no argument that a command hands on has the name of one of its own fields. -/
def Separate : ImageCommand → Prop
  | create _ extra | destroy _ extra => extra.get? "target" = none
  | rebase args => ∀ name ∈ rebaseNames, args.extra.get? name = none
  | _ => True

theorem extra_of_targetOfJson? {json : Json} {target : Option String} {extra : Arguments}
    (h : targetOfJson? json = some (target, extra)) : extra = extraOf ["target"] json := by
  cases json with
  | obj members =>
    obtain ⟨target, -, hPair⟩ := Option.bind_eq_some_iff.1 h
    cases hPair
    rfl
  | _ => cases h

theorem extra_of_rebaseOfJson? {json : Json} {args : RebaseArguments}
    (h : rebaseOfJson? json = some args) : args.extra = extraOf rebaseNames json := by
  cases json with
  | obj members =>
    obtain ⟨target, -, h⟩ := Option.bind_eq_some_iff.1 h
    obtain ⟨params, -, h⟩ := Option.bind_eq_some_iff.1 h
    obtain ⟨nodes, -, h⟩ := Option.bind_eq_some_iff.1 h
    cases h
    rfl
  | _ => cases h

/-- **A command that was read keeps its fields apart** from what it hands on. -/
theorem separate_of_ofRequest {request : Json} {command : ImageCommand}
    (h : ofRequest request = .ok command) : command.Separate := by
  obtain ⟨name, args, decodeArgs, -, hName, hArgs⟩ := Request.decode_eq_ok_iff.1 h
  unfold reader? at hName
  split at hName <;> cases hName <;> obtain ⟨found, hFound, rfl⟩ := Option.map_eq_some_iff.1 hArgs
  case h_1 | h_2 =>
    show found.2.get? "target" = none
    rw [extra_of_targetOfJson? hFound]
    exact get?_extraOf (by simp) args
  case h_3 =>
    intro name hField
    rw [extra_of_rebaseOfJson? hFound]
    exact get?_extraOf hField args
  all_goals trivial

/-- **Fields and what is handed on come apart again** if nothing that is handed on has the name of a
field, be that written or left out. -/
theorem exists_withExtra (names : List String) (fields : List (String × Json)) {extra : Arguments}
    (hNodup : (fields.map (·.1)).Nodup) (hNamed : ∀ field ∈ fields, field.1 ∈ names)
    (h : ∀ name ∈ names, extra.get? name = none) :
    ∃ whole : Arguments, withExtra fields extra = whole.toJson ∧
      (∀ name ∈ names, whole.get? name = fields.lookup name) ∧
        extraOf names whole.toJson = extra := by
  have hWhole : ((fields ++ extra.entries).map (·.1)).Nodup := by
    rw [List.map_append, List.nodup_append]
    refine ⟨hNodup, extra.nodup_keys, ?_⟩
    rintro name hField _ hHanded rfl
    obtain ⟨field, hMember, rfl⟩ := List.mem_map.1 hField
    have hFound := (extra.contains_iff_mem_keys field.1).2 hHanded
    rw [SortedMap.contains, h field.1 (hNamed field hMember)] at hFound
    cases hFound
  have hGet : ∀ name, (SortedMap.ofList (fields ++ extra.entries)).get? name =
      (fields.lookup name).or (extra.get? name) := fun name =>
    (SortedMap.get?_ofList hWhole name).trans List.lookup_append
  refine ⟨.ofList (fields ++ extra.entries), rfl, fun name hName => ?_, ?_⟩
  · rw [hGet, h name hName, Option.or_none]
  · rw [extraOf_toJson]
    refine SortedMap.ext_get? fun name => ?_
    by_cases hName : name ∈ names
    · simp [hName, h name hName]
    · have hNoField : fields.lookup name = none :=
        lookup_eq_none_of_forall_ne fun field hField hSame => hName (hSame ▸ hNamed field hField)
      simp [hName, hGet, hNoField]

theorem targetOfJson?_targetToJson (target : Option String) {extra : Arguments}
    (h : extra.get? "target" = none) :
    targetOfJson? (targetToJson target extra) = some (target, extra) := by
  obtain ⟨whole, hWhole, hFields, hExtra⟩ := exists_withExtra ["target"]
    (target.map fun target => ("target", Json.str target)).toList
    (by cases target <;> simp) (by cases target <;> simp) (by simpa using h)
  have hTarget : whole.get? "target" = target.map .str := by
    rw [hFields "target" List.mem_cons_self]
    cases target <;> simp
  have hRead : (named (written whole.fields)).optionalOr 0 "target" Json.asText? = some target := by
    rw [optionalOr_written whole.nodup_fields, whole.lookup_fields, hTarget, absentOr_text]
  rw [targetToJson, hWhole, targetOfJson?, hExtra, whole.toJson_eq, objectRecord?, some_bind, hRead]
  rfl

/-- What is handed on under the name of the field takes its place. -/
example : targetToJson (some "base") (.ofList [("target", .str "top")]) =
    .obj [("target", .str "top")] := by rfl

theorem rebaseOfJson?_written {args : RebaseArguments} (h : (rebase args).Separate) :
    rebaseOfJson? (rebase args).argsToJson = some args := by
  obtain ⟨target, params, nodes, extra⟩ := args
  obtain ⟨whole, hWhole, hFields, hExtra⟩ := exists_withExtra rebaseNames
    [("target", .str target), ("target_params", params.toJson), ("nodes", .ofTexts nodes)]
    (by simp) (by simp [rebaseNames]) h
  have hTarget : whole.get? "target" = some (.str target) := hFields _ (by decide)
  have hParams : whole.get? "target_params" = some params.toJson := hFields _ (by decide)
  have hNodes : whole.get? "nodes" = some (.ofTexts nodes) := hFields _ (by decide)
  rw [argsToJson, hWhole, rebaseOfJson?, ← rebaseNames, hExtra, whole.toJson_eq, objectRecord?]
  simp [required_written whole.nodup_fields, orElse_written whole.nodup_fields,
    whole.lookup_fields, hTarget, hParams, hNodes]

theorem addOfJson?_written (args : AddArguments) :
    addOfJson? (add args).argsToJson = some args := by
  obtain ⟨target, params, chained, nodes⟩ := args
  simp [addOfJson?, argsToJson, Json.record?, required, orElse, given]

theorem configOfJson?_written (name owner : Option String) :
    configOfJson? (config name owner).argsToJson = some (name, owner) := by
  simp [configOfJson?, argsToJson, Json.record?, optionalOr, orElse, given]

theorem argsToJson_ne_null (command : ImageCommand) : command.argsToJson ≠ .null := by
  cases command with
  | create target extra | destroy target extra => cases target <;> exact fun h => by cases h
  | _ => exact fun h => by cases h

/-- **A command for an image is read back** if its fields keep apart from what it hands on. -/
theorem ofRequest_toJson {command : ImageCommand} (h : command.Separate) :
    ofRequest command.toJson = .ok command := by
  refine Request.decode_written command.argsToJson_ne_null ?_
  cases command with
  | create target extra | destroy target extra =>
    show (targetOfJson? (targetToJson target extra)).map _ = _
    rw [targetOfJson?_targetToJson target h]
    rfl
  | rebase args => exact congrArg (Option.map rebase) (rebaseOfJson?_written h)
  | commit args => exact congrArg (Option.map commit) args.ofJson?_toJson
  | snapshot args => exact congrArg (Option.map snapshot) args.ofJson?_toJson
  | add args => exact congrArg (Option.map add) (addOfJson?_written args)
  | remove target => rfl
  | info args => exact congrArg (Option.map info) args.ofJson?_toJson
  | check args => exact congrArg (Option.map check) args.ofJson?_toJson
  | config name owner =>
    show (configOfJson? (config name owner).argsToJson).map _ = _
    rw [configOfJson?_written]
    rfl
  | backup args => exact congrArg (Option.map backup) args.ofJson?_toJson
  | restore args => exact congrArg (Option.map restore) args.ofJson?_toJson

end ImageCommand

/-- **Commands survive being written.** Whatever form a request had, the command that it was read as
is written as a request that is read as the same command. This holds of every command for a resource.
A command for an image is read back exactly if its fields keep apart from what it hands on, and one
that was read from a request is of that kind. -/
theorem commands_survive_writing :
    (∀ request command, ResourceCommand.ofRequest request = .ok command →
      ResourceCommand.ofRequest command.toJson = .ok command) ∧
    (∀ request command, ImageCommand.ofRequest request = .ok command →
      ImageCommand.ofRequest command.toJson = .ok command) ∧
    (∀ command : ResourceCommand, ResourceCommand.ofRequest command.toJson = .ok command) ∧
    (∀ command : ImageCommand,
      ImageCommand.ofRequest command.toJson = .ok command ↔ command.Separate) :=
  ⟨fun _ command _ => command.ofRequest_toJson,
    fun _ _ h => ImageCommand.ofRequest_toJson (ImageCommand.separate_of_ofRequest h),
    ResourceCommand.ofRequest_toJson,
    fun _ => ⟨ImageCommand.separate_of_ofRequest, ImageCommand.ofRequest_toJson⟩⟩

/-- A resize to a size in text, a release that gives `null`, an `add` that uses the second name of a
field and has a member that no field asks for, and a `rebase` that hands something on. -/
theorem commands_survive_writing_forms :
    (∃ command, ResourceCommand.ofRequest (.obj [("resize", .obj [("size", .str "2G")])]) =
        .ok command ∧ ResourceCommand.ofRequest command.toJson = .ok command) ∧
    (∃ command, ResourceCommand.ofRequest (.obj [("release", .null)]) = .ok command ∧
      ResourceCommand.ofRequest command.toJson = .ok command) ∧
    (∃ command, ImageCommand.ofRequest (.obj [("add", .obj
        [("backingChain", .bool true), ("cache", .str "none"), ("target", .str "sn")])]) =
        .ok command ∧ ImageCommand.ofRequest command.toJson = .ok command) ∧
    (∃ command, ImageCommand.ofRequest (.obj [("rebase", .obj
        [("cache", .str "none"), ("target", .str "sn")])]) = .ok command ∧
      ImageCommand.ofRequest command.toJson = .ok command) := by
  obtain ⟨hResource, hImage, -, -⟩ := commands_survive_writing
  have hResource {request} (command) (h : ResourceCommand.ofRequest request = .ok command) :
      ∃ command, ResourceCommand.ofRequest request = .ok command ∧
        ResourceCommand.ofRequest command.toJson = .ok command :=
    ⟨command, h, hResource request command h⟩
  have hImage {request} (command) (h : ImageCommand.ofRequest request = .ok command) :
      ∃ command, ImageCommand.ofRequest request = .ok command ∧
        ImageCommand.ofRequest command.toJson = .ok command :=
    ⟨command, h, hImage request command h⟩
  exact ⟨hResource (.resize (.human "2G")) rfl, hResource (.release ∅) rfl,
    hImage (.add ⟨"sn", .empty, true, []⟩) rfl,
    hImage (.rebase ⟨"sn", .empty, [], .ofList [("cache", .str "none")]⟩) rfl⟩

end DiskFleet
