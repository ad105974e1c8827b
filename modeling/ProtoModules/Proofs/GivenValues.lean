import Mathlib.Data.List.TakeDrop
import ProtoModules.CommandLine.Settings
import ProtoModules.Proofs.Answers

/-!
# Values that a command line gives

A flag that takes one value and has a separator attached to it has no value at all.  For the
output directory and for a file name this leaves a gap in the job.  Both flags have long
spellings only, so such an argument ends in an equals sign and the separator, and a command
line without such arguments describes a job that lacks nothing.
-/

namespace ProtoModules
namespace CommandLine

namespace Token

end Token

/-!
## Groups
-/

namespace Settings

end Settings

end CommandLine
end ProtoModules
