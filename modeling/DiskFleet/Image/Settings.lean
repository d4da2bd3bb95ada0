import DiskFleet.Registry.Basic

/-!
# Settings for images

What is done with the partial result of a failed operation, how long fresh name suffixes are, and
the format and size of a layer that no parameter gives.
-/

namespace DiskFleet

/-- The settings that image operations work with. -/
structure ImageSettings where
  recovery : Recovery
  suffixLength : Nat
  layerFormat : String
  layerSize : String
deriving DecidableEq, Repr

namespace ImageSettings

/-- The settings of an engine that nothing configures. -/
def default : ImageSettings :=
  { recovery := .leave, suffixLength := defaultSuffixLength
    layerFormat := defaultImageFormat, layerSize := defaultVolumeSize }

def toJson (settings : ImageSettings) : Json :=
  .obj [("default_format", .str settings.layerFormat), ("default_size", .str settings.layerSize),
    ("recovery", .str settings.recovery.word), ("suffix_length", .ofNat settings.suffixLength)]

end ImageSettings

end DiskFleet
