import Microbench.Pattern.Parser
import Microbench.Registry

/-!
The engine that the program compiles its patterns with.
-/

namespace Microbench.Pattern

namespace Fault

def text : Fault → String
  | unclosedGroup => "unclosed group"
  | unopenedGroup => "unopened group"
  | groupName => "invalid capture group name"
  | lookAround => "look-around, including look-ahead and look-behind, is not supported"
  | flags => "unrecognized flag"
  | nothingToRepeat => "repetition operator missing expression"
  | repetition => "invalid repetition count range"
  | escape => "unrecognized escape sequence"
  | unclosedSet => "unclosed character class"
  | set => "invalid character class range"
  | unknownProperty => "Unicode property not found"
  | notText => "pattern can match invalid UTF-8"
  | tooNested => "exceeded the maximum number of nested parentheses/brackets"
  | tooLarge => "compiled pattern exceeds size limit"

end Fault

instance engine : PatternEngine where
  compile text := (parse text).map isMatch |>.mapError Fault.text

end Microbench.Pattern
