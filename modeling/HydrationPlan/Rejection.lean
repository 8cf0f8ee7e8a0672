import HydrationPlan.Coordinates
import HydrationPlan.Diagnostic
import HydrationPlan.Path

/-!
# Rejections

Why a hydration is refused. Each cause has a stable code and one wording.
-/

namespace HydrationPlan

inductive Rejection
  | serviceNotFound (service : String)
  | backingFieldNotFound (service field : String)
  | backingArgumentNotFound (backingField argument : String)
  | sourceFieldNotFound (parentType : String) (path : Path)
  | virtualArgumentNotFound (argument : String)
  | conditionFieldNotFound (parentType path : String)
  | missingDefaultHydration (typeName : String)
  | invalidArgumentValue (argument value reason : String)
  | incompatibleInputType (argument supplied required : String)
  | missingInputField (argument suppliedType inputType inputField : String)
  | incompatibleField (argument suppliedType suppliedField inputType inputField : String)
  | invalidBatchIdShape (argument required : String)
  | staticValueNotAssignable (argument value required reason : String)
  | duplicateArgument (argument : String)
  | missingSourceField
  | multipleSourceFields (arguments : List String)
  | missingRequiredBackingArgument (argument : String)
  | mixedBatchUsage
  | mixedIndexUsage
  | mixedConditionUsage
  | polymorphicMustOutputUnion (declared : String)
  | incompatibleOutputType (actual declared : String)
  | mustBeNullable (declared : String)
  | cannotSqueezeSourceList (argument : String) (sourcePath : Path)
  | multipleFanOutArguments (arguments : List String)
  | unsupportedConditionFieldType (path : Path) (fieldType : String)
  | invalidRegex (pattern : String)
  | incompatibleValue (path : Path) (fieldType value : String)
  | missingIdentifiedBy
  | invalidSourceId (sourceId : String) (sourceField : Path)
deriving DecidableEq

namespace Rejection

def name : Rejection → String
  | serviceNotFound .. => "service_not_found"
  | backingFieldNotFound .. => "backing_field_not_found"
  | backingArgumentNotFound .. => "backing_argument_not_found"
  | sourceFieldNotFound .. => "source_field_not_found"
  | virtualArgumentNotFound .. => "virtual_argument_not_found"
  | conditionFieldNotFound .. => "condition_field_not_found"
  | missingDefaultHydration .. => "missing_default_hydration"
  | invalidArgumentValue .. => "invalid_argument_value"
  | incompatibleInputType .. => "incompatible_input_type"
  | missingInputField .. => "missing_input_field"
  | incompatibleField .. => "incompatible_field"
  | invalidBatchIdShape .. => "invalid_batch_id_shape"
  | staticValueNotAssignable .. => "static_value_not_assignable"
  | duplicateArgument .. => "duplicate_argument"
  | missingSourceField => "missing_source_field"
  | multipleSourceFields .. => "multiple_source_fields"
  | missingRequiredBackingArgument .. => "missing_required_backing_argument"
  | mixedBatchUsage => "mixed_batch_usage"
  | mixedIndexUsage => "mixed_index_usage"
  | mixedConditionUsage => "mixed_condition_usage"
  | polymorphicMustOutputUnion .. => "polymorphic_must_output_union"
  | incompatibleOutputType .. => "incompatible_output_type"
  | mustBeNullable .. => "must_be_nullable"
  | cannotSqueezeSourceList .. => "cannot_squeeze_source_list"
  | multipleFanOutArguments .. => "multiple_fan_out_arguments"
  | unsupportedConditionFieldType .. => "unsupported_condition_field_type"
  | invalidRegex .. => "invalid_regex"
  | incompatibleValue .. => "incompatible_value"
  | missingIdentifiedBy => "missing_identified_by"
  | invalidSourceId .. => "invalid_source_id"

/-- The stable code under which a cause is documented. -/
def code (r : Rejection) : String := "weave::hydration::" ++ r.name

/-- The fault inside an invalid pattern is not told; a placeholder stands for it. -/
def message : Rejection → String
  | serviceNotFound service => s!"service `{service}` does not exist"
  | backingFieldNotFound service field =>
    s!"backing field `{field}` does not exist on service `{service}`"
  | backingArgumentNotFound backingField argument =>
    s!"backing field `{backingField}` has no argument `{argument}`"
  | sourceFieldNotFound parentType path =>
    s!"source field `{path.text}` does not exist on `{parentType}`"
  | virtualArgumentNotFound argument => s!"hydrated field has no argument `{argument}`"
  | conditionFieldNotFound parentType path =>
    s!"condition field `{path}` does not exist on `{parentType}`"
  | missingDefaultHydration typeName =>
    s!"type `{typeName}` has no @defaultHydration for @idHydrated"
  | invalidArgumentValue argument value reason =>
    s!"argument `{argument}` has an invalid value `{value}`: {reason}"
  | incompatibleInputType argument supplied required =>
    s!"argument `{argument}` supplies `{supplied}` but the backing field requires `{required}`"
  | missingInputField argument suppliedType inputType inputField =>
    s!"argument `{argument}` cannot build input `{inputType}`: " ++
      s!"`{suppliedType}` has no field `{inputField}`"
  | incompatibleField argument suppliedType suppliedField inputType inputField =>
    s!"argument `{argument}`: `{suppliedType}.{suppliedField}` is not assignable to " ++
      s!"`{inputType}.{inputField}`"
  | invalidBatchIdShape argument required =>
    s!"batch argument `{argument}` must be a single list, found `{required}`"
  | staticValueNotAssignable argument value required reason =>
    s!"static value {value} is not assignable to argument `{argument}` of type " ++
      s!"`{required}`: {reason}"
  | duplicateArgument argument => s!"backing argument `{argument}` is targeted more than once"
  | missingSourceField => "batch hydration requires a `$source` argument"
  | multipleSourceFields arguments =>
    "batch hydration requires exactly one `$source` argument, found " ++
      ", ".intercalate arguments
  | missingRequiredBackingArgument argument =>
    s!"required backing argument `{argument}` is not supplied"
  | mixedBatchUsage => "hydrations on one field must be all batched or all unbatched"
  | mixedIndexUsage => "hydrations on one field must all be indexed or none"
  | mixedConditionUsage => "hydrations on one field must all declare a condition or none"
  | polymorphicMustOutputUnion declared =>
    s!"field with multiple hydrations must output a union, found `{declared}`"
  | incompatibleOutputType actual declared =>
    s!"backing field returns `{actual}` which is not assignable to `{declared}`"
  | mustBeNullable declared => s!"hydrated field must be nullable, found `{declared}`"
  | cannotSqueezeSourceList argument sourcePath =>
    s!"argument `{argument}` takes a single value but `{sourcePath.text}` is a list; " ++
      "the hydrated field must be a list"
  | multipleFanOutArguments arguments =>
    "only one list `$source` argument may fan out into a single-value argument, found " ++
      ", ".intercalate arguments
  | unsupportedConditionFieldType path fieldType =>
    s!"condition field `{path.text}` has type `{fieldType}`; expected String, Int, Long or ID"
  | invalidRegex pattern =>
    s!"condition pattern `{pattern}` is not a valid regular expression: <reason>"
  | incompatibleValue path fieldType value =>
    s!"condition value {value} cannot be compared with `{path.text}` of type `{fieldType}`"
  | missingIdentifiedBy =>
    "batch hydration must declare `identifiedBy`, `inputIdentifiedBy` or `indexed`"
  | invalidSourceId sourceId sourceField =>
    s!"source id `{sourceId}` must extend the `$source` argument path `{sourceField.text}`"

end Rejection

structure FieldRejection where
  coordinates : Coordinates
  cause : Rejection
deriving DecidableEq

namespace FieldRejection

def message (r : FieldRejection) : String :=
  s!"invalid hydration on `{r.coordinates.text}`: {r.cause.message}"

def diagnostic (r : FieldRejection) : Diagnostic :=
  ((Diagnostic.ofError r.cause.code "invalid hydration").withMessage r.cause.message).labelled
    r.coordinates "declared here"

end FieldRejection

end HydrationPlan
