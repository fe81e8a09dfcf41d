import Allgres.Sandbox.Validate

namespace Allgres

end Allgres
