/-!
# Names and version of the program
-/

namespace Retrace

/-- The version. -/
def version : String := "0.1.0"

/-- The name under which the program is run. -/
def commandName : String := "crashmap-server"

/-- How the program names itself to the web. -/
def userAgent : String := s!"crashmap/{version}"

end Retrace
