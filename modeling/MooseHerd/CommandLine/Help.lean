/-! What the program says about itself. -/

namespace MooseHerd.CommandLine

def programName : String := "generate-random-meese"

def versionText : String := programName ++ " 0.1.0\n"

def shortHelp : String :=
  "向集群批量创建随机 Moose 资源\n\n" ++
  "Usage: " ++ programName ++ " [OPTIONS] <COUNT>\n\n" ++
  "Arguments:\n" ++
  "  <COUNT>  要生成的 Moose 数量\n\n" ++
  "Options:\n" ++
  "  -l, --log-level <LOG_LEVEL>    日志级别 (trace, debug, info, warn, error)，覆盖配置文件\n" ++
  "  -c, --config-dir <CONFIG_DIR>  配置文件目录 [default: config]\n" ++
  "      --seed <SEED>              随机种子，相同种子生成相同的批次\n" ++
  "      --dry-run                  只写入内存存储，不连接集群\n" ++
  "  -h, --help                     Print help (see more with '--help')\n" ++
  "  -V, --version                  Print version\n"

def longHelp : String :=
  "随机 Moose 生成工具\n\n" ++
  "生成指定数量、名字以 M 开头的 Moose 资源并逐个创建到集群中。\n\n" ++
  "Usage: " ++ programName ++ " [OPTIONS] <COUNT>\n\n" ++
  "Arguments:\n" ++
  "  <COUNT>\n" ++
  "          要生成的 Moose 数量\n\n" ++
  "Options:\n" ++
  "  -l, --log-level <LOG_LEVEL>\n" ++
  "          日志级别 (trace, debug, info, warn, error)，覆盖配置文件\n\n" ++
  "  -c, --config-dir <CONFIG_DIR>\n" ++
  "          配置文件目录\n" ++
  "          \n" ++
  "          [default: config]\n\n" ++
  "      --seed <SEED>\n" ++
  "          随机种子，相同种子生成相同的批次\n\n" ++
  "      --dry-run\n" ++
  "          只写入内存存储，不连接集群\n\n" ++
  "  -h, --help\n" ++
  "          Print help (see a summary with '-h')\n\n" ++
  "  -V, --version\n" ++
  "          Print version\n"

end MooseHerd.CommandLine
