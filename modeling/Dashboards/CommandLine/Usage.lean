import Dashboards.CommandLine.Command
import Dashboards.CommandLine.Options

/-!
# Usage

* `programName`, `version` : what the program is called;
* `usage` : the commands and options;
* `Refusal.text` : what is said where a command line is not followed.
-/

namespace Dashboards.CommandLine

def programName : String := "dashlens"

def version : String := "0.1.0"

def usage : String :=
  "Usage: " ++ programName ++ " [OPTIONS] <COMMAND>\n\n" ++
  "Commands:\n" ++
  "  create FILE              Create a dashboard from a JSON document (- reads standard input)\n" ++
  "  list                     List stored dashboards\n" ++
  "  get UUID                 Show a dashboard\n" ++
  "  update UUID FILE         Replace a dashboard's document\n" ++
  "  delete UUID              Delete a dashboard\n" ++
  "  lock UUID, unlock UUID   Lock a dashboard against edits by users, or unlock it\n" ++
  "  report                   Add up what all stored dashboards show\n" ++
  "  metric-usage METRIC...   Find the widgets that chart the metrics\n" ++
  "  analyze FILE...          Summarize documents without a store\n" ++
  "  diff OLD NEW             Show which widgets an update would remove\n\n" ++
  "Options:\n" ++
  "  --store-dir DIR          Folder of the store\n" ++
  "  --user USER              Acting user; without one the system acts\n" ++
  "  --log-format FORMAT      text or json\n" ++
  "  -o, --output FORMAT      json or table\n" ++
  "  --output-file FILE       Write results to a file\n" ++
  "  -h, --help\n" ++
  "  -V, --version\n"

namespace Refusal

def reason : Refusal → String
  | .helpRequested | .versionRequested | .nothingGiven => ""
  | .missingCommand => "a command is required"
  | .unknownCommand => "unknown command"
  | .unknownArgument => "unexpected argument"
  | .missingArgument => "a required argument is missing"
  | .repeatedOption => "an option was given twice"
  | .missingValue => "an option or argument needs a value"
  | .invalidValue => "invalid value for an option"
  | .undecodableValue => "a variable holds no text"
  | .surplusValue => "a value was given to an option that takes none"

def text : Refusal → String
  | .helpRequested | .nothingGiven => usage
  | .versionRequested => programName ++ " " ++ version ++ "\n"
  | refusal => "error: " ++ refusal.reason ++ "\n\n" ++ usage

end Refusal

end Dashboards.CommandLine
