import Curator.CommandLine.Request

/-! What the program says about its use. -/
namespace Curator.CommandLine

def usage : HelpTopic → String
  | .program => "Usage: senbetsu [OPTIONS] <COMMAND>"
  | .command .feed => "Usage: senbetsu feed [OPTIONS] --source-url <SOURCE_URL> <FILE>"
  | .command .files => "Usage: senbetsu files [OPTIONS] <DIR>"
  | .command .status => "Usage: senbetsu status [OPTIONS]"
  | .help => "Usage: senbetsu help [COMMAND]..."

/-- What the word that asks for help does. -/
def helpSummary : String :=
  "Print this message or the help of the given subcommand(s)"

def summary : CommandName → String
  | .feed => "Parse a saved feed document and list its releases, best rated first"
  | .files => "Group the media files under a folder with their companion files"
  | .status => "Show recorded source health"

def help : HelpTopic → List String
  | .program =>
    ["Rank feed releases, track source health and screen files for import", "", usage .program, "",
      "Commands:",
      "  feed    " ++ summary .feed,
      "  files   " ++ summary .files,
      "  status  " ++ summary .status,
      "  help    " ++ helpSummary, "",
      "Options:",
      "      --config <CONFIG>  Use this config file instead of the user config",
      "  -v, --verbose...       Raise log verbosity (-v debug, -vv trace)",
      "  -h, --help             Print help"]
  | .command .feed =>
    [summary .feed, "", usage (.command .feed), "", "Arguments:", "  <FILE>  ", "", "Options:",
      "      --config <CONFIG>          Use this config file instead of the user config",
      "      --source-url <SOURCE_URL>  URL the feed was fetched from; "
        ++ "decides whether ratings are read",
      "  -v, --verbose...               Raise log verbosity (-v debug, -vv trace)",
      "  -h, --help                     Print help"]
  | .command .files =>
    [summary .files, "", usage (.command .files), "", "Arguments:", "  <DIR>  ", "", "Options:",
      "      --config <CONFIG>  Use this config file instead of the user config",
      "      --top-level        Do not descend into subfolders",
      "  -v, --verbose...       Raise log verbosity (-v debug, -vv trace)",
      "  -h, --help             Print help"]
  | .command .status =>
    [summary .status, "", usage (.command .status), "", "Options:",
      "      --config <CONFIG>  Use this config file instead of the user config",
      "      --source <SOURCE>  Only this source",
      "  -v, --verbose...       Raise log verbosity (-v debug, -vv trace)",
      "  -h, --help             Print help"]
  | .help =>
    [helpSummary, "", usage .help, "", "Arguments:",
      "  [COMMAND]...  Print help for the subcommand(s)"]

end Curator.CommandLine
