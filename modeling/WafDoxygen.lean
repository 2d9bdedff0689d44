import WafDoxygen.PyStr
import WafDoxygen.PyDict
import WafDoxygen.Lines
import WafDoxygen.ParseDoxy
import WafDoxygen.ClosedForm
import WafDoxygen.Payload
import WafDoxygen.DoxygenTask
import WafDoxygen.TarTask
import WafDoxygen.AntGlob
import WafDoxygen.Scan
import WafDoxygen.Feature
import WafDoxygen.DefaultCompilerFlags
import WafDoxygen.Coverage
import WafDoxygen.Sqlite3
