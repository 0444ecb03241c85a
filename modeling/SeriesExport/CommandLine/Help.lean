import SeriesExport.CommandLine.Option

/-!
# Help

What the program says about itself.
-/

namespace SeriesExport.CommandLine

def versionText : String := "hds-export 0.1.0\n"

/-- Each line with a line feed. -/
def linesText (lines : List String) : String := String.join (lines.map (· ++ "\n"))

def helpText : Topic → String
  | .program => linesText [
    "Bulk export from a historical datastore",
    "",
    "Usage: hds-export [OPTIONS] <COMMAND>",
    "",
    "Commands:",
    "  sources  List registered data sources",
    "  data     Export raw data points",
    "  aggr     Export aggregated data",
    "  help     Print this message or the help of the given subcommand(s)",
    "",
    "Options:",
    "      --config <CONFIG>    JSON configuration file",
    "      --api-url <API_URL>  Base URL of the datastore API (overrides the configuration file)",
    "      --token <TOKEN>      Session ticket sent with every request [env: HDS_AUTH_TOKEN]",
    "  -h, --help               Print help",
    "  -V, --version            Print version"]
  | .sources => linesText [
    "List registered data sources",
    "",
    "Usage: hds-export sources [OPTIONS]",
    "",
    "Options:",
    "      --config <CONFIG>    JSON configuration file",
    "      --api-url <API_URL>  Base URL of the datastore API (overrides the configuration file)",
    "      --token <TOKEN>      Session ticket sent with every request [env: HDS_AUTH_TOKEN]",
    "  -h, --help               Print help"]
  | .data => linesText [
    "Export raw data points",
    "",
    "Usage: hds-export data [OPTIONS]",
    "",
    "Options:",
    "      --attributes <ATTRIBUTES>  Comma separated attributes (name, time, value, unit) [default: name,time,value,unit]",
    "      --config <CONFIG>          JSON configuration file",
    "      --api-url <API_URL>        Base URL of the datastore API (overrides the configuration file)",
    "      --source <SOURCES>         Source to export; repeat for several. All sources when omitted",
    "      --token <TOKEN>            Session ticket sent with every request [env: HDS_AUTH_TOKEN]",
    "      --zip                      One CSV per source, zipped",
    "      --start <START>            Start of the time window (YYYY-MM-DDTHH:MM:SS) [default: ]",
    "      --end <END>                End of the time window (YYYY-MM-DDTHH:MM:SS) [default: ]",
    "      --iso                      Write timestamps as ISO 8601 instead of epoch seconds",
    "      --out <OUT>                Output directory [default: .]",
    "  -h, --help                     Print help"]
  | .aggregations => linesText [
    "Export aggregated data",
    "",
    "Usage: hds-export aggr [OPTIONS]",
    "",
    "Options:",
    "      --aggregation <AGGREGATIONS>  `<id>=<attributes>`; repeat for several. All aggregations when omitted",
    "      --config <CONFIG>             JSON configuration file",
    "      --api-url <API_URL>           Base URL of the datastore API (overrides the configuration file)",
    "      --zip                         One CSV per aggregation and source, zipped",
    "      --per-aggregation             One CSV per aggregation, zipped",
    "      --token <TOKEN>               Session ticket sent with every request [env: HDS_AUTH_TOKEN]",
    "      --start <START>               Start of the time window (YYYY-MM-DDTHH:MM:SS) [default: ]",
    "      --end <END>                   End of the time window (YYYY-MM-DDTHH:MM:SS) [default: ]",
    "      --iso                         Write timestamps as ISO 8601 instead of epoch seconds",
    "      --out <OUT>                   Output directory [default: .]",
    "  -h, --help                        Print help"]
  | .help => linesText [
    "Print this message or the help of the given subcommand(s)",
    "",
    "Usage: hds-export help [COMMAND]...",
    "",
    "Arguments:",
    "  [COMMAND]...  Print help for the subcommand(s)"]

/-- What is said about a command line that makes no sense. -/
def misuseText : String := linesText ["error: invalid arguments", "", "For more information, try '--help'."]

end SeriesExport.CommandLine
