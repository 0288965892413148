/-!
# The manual

What is told when help or the version is asked for.
-/

namespace RoguePilot.CommandLine

/-- The name of the program with its version. -/
def version : String := "crawlterm 0.3.0"

/-- The lines that explain the options. -/
def manual : List String :=
  [version ++ " - drive the console roguelike through its terminal",
   "",
   "Usage: crawlterm [OPTIONS]",
   "",
   "Options:",
   "  -c, --config <PATH>   Config file (default: ~/.crawlterm/config.toml)",
   "  -b, --binary <PATH>   Game executable",
   "  -d, --dir <PATH>      Directory to run the game in",
   "  -e, --episodes <N>    Episodes to play (default: 1)",
   "  -s, --steps <N>       Step cap per episode (default: 5000)",
   "  -k, --keys <KEYS>     Key cycle, one action per character (default: o5)",
   "      --dump            Print the final screen of each episode",
   "  -v, --version         Show version",
   "  -h, --help            Show this help",
   "",
   "Log file: ~/.crawlterm/crawlterm.log (RUST_LOG overrides the level)"]

end RoguePilot.CommandLine
