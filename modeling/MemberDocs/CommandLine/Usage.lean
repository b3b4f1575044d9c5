import MemberDocs.CommandLine.Arguments

/-! # Usage and help texts

What is shown when arguments are refused or help is asked for. The texts are set for a terminal of 80
columns.
-/

namespace MemberDocs.CommandLine

/-- Lines as a text, each with its end. -/
def textOfLines (lines : List String) : String :=
  String.join (lines.map (· ++ "\n"))

namespace Scope

/-- The name that messages start with. -/
def name : Scope → String
  | program => "xmldoc2md"
  | command c => "xmldoc2md " ++ c.name

/-- The lines that tell how the arguments are written. -/
def usageLines : Scope → List String
  | program => ["usage: xmldoc2md [-h] [-v] [--log-file LOG_FILE] \x7bconvert,generate\x7d ..."]
  | command .convert =>
    ["usage: xmldoc2md convert [-h] [-v] [--log-file LOG_FILE] [-i INPUTFILE]",
      "                         [--cin] [-o OUTPUTFILE] [--cout]"]
  | command .generate =>
    ["usage: xmldoc2md generate [-h] [-v] [--log-file LOG_FILE]",
      "                          [-d DOCUMENTATION_PATH] [--merge] [-o OUTPUT]",
      "                          [--warn-on-unexpected-tag] [--config CONFIG]",
      "                          [inputs ...]"]

/-- The lines of the help after the usage. -/
def helpLines : Scope → List String
  | program =>
    ["",
      "Convert XML documentation comments into Markdown.",
      "",
      "positional arguments:",
      "  \x7bconvert,generate\x7d",
      "    convert            Convert a single XML documentation file.",
      "    generate           Generate Markdown for several XML files and optionally",
      "                       merge the results.",
      "",
      "options:",
      "  -h, --help           show this help message and exit",
      "  -v, --verbose        Increase log verbosity for troubleshooting.",
      "  --log-file LOG_FILE  Also write detailed logs to this file."]
  | command .convert =>
    ["",
      "options:",
      "  -h, --help            show this help message and exit",
      "  -v, --verbose         Increase log verbosity for troubleshooting.",
      "  --log-file LOG_FILE   Also write detailed logs to this file.",
      "  -i INPUTFILE, --inputfile INPUTFILE",
      "                        Input xml file to read.",
      "  --cin                 Read input from console instead of file.",
      "  -o OUTPUTFILE, --outputfile OUTPUTFILE",
      "                        Output md file to write.",
      "  --cout                Write output to console instead of file."]
  | command .generate =>
    ["",
      "positional arguments:",
      "  inputs                XML documentation files to convert (defaults to",
      "                        `inputs` from the config file).",
      "",
      "options:",
      "  -h, --help            show this help message and exit",
      "  -v, --verbose         Increase log verbosity for troubleshooting.",
      "  --log-file LOG_FILE   Also write detailed logs to this file.",
      "  -d DOCUMENTATION_PATH, --documentation-path DOCUMENTATION_PATH",
      "                        Directory that receives generated files, or a single",
      "                        Markdown file.",
      "  --merge               Merge existing and generated Markdown into --output.",
      "  -o OUTPUT, --output OUTPUT",
      "                        File written by the merge step.",
      "  --warn-on-unexpected-tag",
      "                        Log unknown tags as warnings and skip the affected",
      "                        file instead of failing.",
      "  --config CONFIG       Path to .xmldoc2md.yml or the directory holding it",
      "                        (defaults to current directory)."]

def usage (scope : Scope) : String := textOfLines scope.usageLines

/-- The help of the program or of a command. -/
def help (scope : Scope) : String := textOfLines (scope.usageLines ++ scope.helpLines)

/-- What is shown when arguments are wrong. -/
def report (scope : Scope) (fault : ArgumentFault) : String :=
  scope.usage ++ scope.name ++ ": error: " ++ fault.message ++ "\n"

end Scope

end MemberDocs.CommandLine
