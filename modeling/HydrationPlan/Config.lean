/-!
# Compiler configuration
-/

namespace HydrationPlan

/-- Values of the enum `supplied` may be passed where `required` is expected. -/
structure EnumOverride where
  supplied : String
  required : String
deriving DecidableEq, Repr

structure Config where
  enumOverrides : List EnumOverride
  parallel : Bool
  defaultBatchSize : UInt32
  defaultTimeoutMillis : Option UInt64
deriving DecidableEq, Repr

namespace Config

def standard : Config where
  enumOverrides := []
  parallel := true
  defaultBatchSize := 50
  defaultTimeoutMillis := none

instance : Inhabited Config := ⟨standard⟩

def withEnumOverride (c : Config) (supplied required : String) : Config :=
  { c with enumOverrides := c.enumOverrides ++ [⟨supplied, required⟩] }

def withParallel (c : Config) (parallel : Bool) : Config := { c with parallel := parallel }

def withDefaultBatchSize (c : Config) (size : UInt32) : Config :=
  { c with defaultBatchSize := size }

def withDefaultTimeout (c : Config) (millis : UInt64) : Config :=
  { c with defaultTimeoutMillis := some millis }

def isEnumOverride (c : Config) (supplied required : String) : Bool :=
  c.enumOverrides.contains ⟨supplied, required⟩

end Config

end HydrationPlan
