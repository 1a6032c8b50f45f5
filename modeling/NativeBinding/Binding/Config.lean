import NativeBinding.Text.Blank
import NativeBinding.Text.Utf8

/-! Which libraries are loaded, and whether OpenCL may be created without being asked for. -/
namespace NativeBinding

/-- The settings of the bindings. A name that is not set stands for the default. -/
structure Config where
  openCLName : Option String := none
  openALName : Option String := none
  libOVRName : Option String := none
  explicitStart : Bool := false
  deriving DecidableEq

namespace Config

def openCLKey : String := "DYNBIND_LIBRARY_NAME_OPENCL"
def openALKey : String := "DYNBIND_LIBRARY_NAME_OPENAL"
def libOVRKey : String := "DYNBIND_LIBRARY_NAME_LIBOVR"
def explicitKey : String := "DYNBIND_EXPLICIT_INIT_OPENCL"

/-- The OpenCL library to load. -/
def openCLLibrary (c : Config) : String := c.openCLName.getD "OpenCL"

/-- The OpenAL library to load. -/
def openALLibrary (c : Config) : String := c.openALName.getD "openal"

/-- The LibOVR runtime to load. -/
def libOVRLibrary (c : Config) : String := c.libOVRName.getD "OVRRT64_0"

/-- True for the values that switch a setting on. -/
def isSwitchedOn (value : String) : Bool :=
  String.ofList ((Text.trim value.toList).map Char.toLower) ∈ ["true", "1", "yes"]

/-- The value that an environment gives a setting. A blank one counts as none. -/
def setting? (environment : String → Option String) (key : String) : Option String :=
  (environment key).filter fun value => !Text.isAllBlank value

/-- The settings with those of an environment put over them. -/
def applyEnvironment (c : Config) (environment : String → Option String) : Config where
  openCLName := setting? environment openCLKey <|> c.openCLName
  openALName := setting? environment openALKey <|> c.openALName
  libOVRName := setting? environment libOVRKey <|> c.libOVRName
  explicitStart := ((setting? environment explicitKey).map isSwitchedOn).getD c.explicitStart

/-- The defaults with the environment of a process put over them. Its values are bytes; one that is
not text counts as none. -/
def ofEnvironment (values : String → Option (List UInt8)) : Config :=
  ({} : Config).applyEnvironment fun key => values key >>= Text.Utf8.decode?

/-- A change of the settings. -/
inductive Step where
  | openCL (name : Option String)
  | openAL (name : Option String)
  | libOVR (name : Option String)
  | explicitStart (value : Bool)
  | reset
  | environment (values : String → Option String)
  | processEnvironment (values : String → Option (List UInt8))

def apply (c : Config) : Step → Config
  | .openCL name => { c with openCLName := name }
  | .openAL name => { c with openALName := name }
  | .libOVR name => { c with libOVRName := name }
  | .explicitStart value => { c with explicitStart := value }
  | .reset => {}
  | .environment values => c.applyEnvironment values
  | .processEnvironment values => ofEnvironment values

/-- The settings after a sequence of changes. -/
def applyAll (c : Config) (steps : List Step) : Config := steps.foldl apply c

/-- The settings before the first change and after each. -/
def stages (c : Config) : List Step → List Config
  | [] => [c]
  | step :: steps => c :: stages (c.apply step) steps

end Config

end NativeBinding
