/-! The name of a called method, and which names ask for a token rather than present one. -/

namespace CallGate

/-- A method by its full path, `/package.Service/Method`. -/
structure Method where
  path : String
  deriving DecidableEq, Repr

namespace Method

def ofRoute (service name : String) : Method := ⟨"/" ++ service ++ "/" ++ name⟩

/-- The handshake method of the Flight service. -/
def flightHandshake : Method := ⟨"/arrow.flight.protocol.FlightService/Handshake"⟩

/-- Handshake methods are those whose path ends with the agreed suffix. -/
def isHandshake (m : Method) (suffix : String) : Bool :=
  suffix.toList.isSuffixOf m.path.toList

theorem isHandshake_iff (m : Method) (suffix : String) :
    m.isHandshake suffix = true ↔ suffix.toList <:+ m.path.toList := by
  simp [isHandshake]

@[simp] theorem isHandshake_self (suffix : String) : (Method.mk suffix).isHandshake suffix = true := by
  simp [isHandshake_iff]

@[simp] theorem isHandshake_empty (m : Method) : m.isHandshake "" = true := by
  simp [isHandshake_iff]

end Method

/-- The suffix in force unless another is configured. -/
def defaultSuffix : String := "/Handshake"

end CallGate
