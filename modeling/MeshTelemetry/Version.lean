/-!
# Version

The version of the library. Message and element formats name no version of it: they are fixed.
-/

namespace MeshTelemetry

def version : String := "0.1.0"

end MeshTelemetry
