/-! The error numbers of `errno.h` that the program returns and throws, as Linux has them. -/

namespace VehicleRunner.Misc

def EAGAIN : Int := 11
def ENOMSG : Int := 42
def EUNATCH : Int := 49
def EBADR : Int := 53
def ECONNREFUSED : Int := 111

end VehicleRunner.Misc
