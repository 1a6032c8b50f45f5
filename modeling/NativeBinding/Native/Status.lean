/-! Status codes of OpenCL calls. -/
namespace NativeBinding.Status

abbrev success : Int32 := 0
abbrev invalidValue : Int32 := -30

/-- What an installable client driver loader without vendors answers. -/
abbrev platformNotFound : Int32 := -1001

end NativeBinding.Status
