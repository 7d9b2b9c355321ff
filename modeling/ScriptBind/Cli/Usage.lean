import ScriptBind.Cli.Arguments

/-!
# ScriptBind.Cli.Usage

What the program says about itself: `HelpTopic.text` and `versionText`.
-/

namespace ScriptBind

def versionText : String := "tether 0.1.0\n"

def linesText (lines : List String) : String := String.join (lines.map (· ++ "\n"))

def HelpTopic.text : HelpTopic → String
  | .program =>
    linesText
      ["Script bindings for native packages",
       "",
       "Usage: tether [OPTIONS] <COMMAND>",
       "",
       "Commands:",
       "  generate  Generate the converter module and JSON manifest",
       "  inspect   Show shapes, converters, bridges and limitations for a declaration",
       "  help      Print this message or the help of the given subcommand(s)",
       "",
       "Options:",
       "  -v, --verbose...       Increase log verbosity (-v debug, -vv trace)",
       "      --config <CONFIG>  Path to tether.toml (default: search upward from the working directory)",
       "  -h, --help             Print help",
       "  -V, --version          Print version"]
  | .generate =>
    linesText
      ["Generate the converter module and JSON manifest",
       "",
       "Usage: tether generate [OPTIONS]",
       "",
       "Options:",
       "      --input <INPUT>              Declaration file (default: [generate] input in tether.toml)",
       "  -v, --verbose...                 Increase log verbosity (-v debug, -vv trace)",
       "      --config <CONFIG>            Path to tether.toml (default: search upward from the working directory)",
       "      --output-dir <OUTPUT_DIR>    Output directory (default: generated)",
       "      --module-name <MODULE_NAME>  Module name for <name>.rs and <name>.json (default: bindings)",
       "      --no-manifest                Skip writing the JSON manifest",
       "  -h, --help                       Print help"]
  | .inspect =>
    linesText
      ["Show shapes, converters, bridges and limitations for a declaration",
       "",
       "Usage: tether inspect [OPTIONS]",
       "",
       "Options:",
       "      --input <INPUT>    Declaration file (default: [generate] input in tether.toml)",
       "  -v, --verbose...       Increase log verbosity (-v debug, -vv trace)",
       "      --config <CONFIG>  Path to tether.toml (default: search upward from the working directory)",
       "      --json             Print the JSON manifest instead of the summary",
       "  -h, --help             Print help"]
  | .help =>
    linesText
      ["Print this message or the help of the given subcommand(s)",
       "",
       "Usage: tether help [COMMAND]...",
       "",
       "Arguments:",
       "  [COMMAND]...  Print help for the subcommand(s)"]

end ScriptBind
