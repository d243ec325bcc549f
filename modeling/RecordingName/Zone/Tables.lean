import RecordingName.Zone.Basic

/-!
# The zones that have a name

The transitions of nine zones, as the time zone database gives them, and the
database of these and of universal time alone: `Database.tabulated`. Names are exact:
case and spelling count. `transitions_ascending` says that the tables are in order,
which the look-up of an instant needs.
-/

namespace RecordingName.Zone

namespace NewYork

/-! The offsets that New York has had. -/

def lmt : Offset := ⟨-17762, "LMT".text, by decide⟩
def est : Offset := ⟨-18000, "EST".text, by decide⟩
def edt : Offset := ⟨-14400, "EDT".text, by decide⟩
def ewt : Offset := ⟨-14400, "EWT".text, by decide⟩
def ept : Offset := ⟨-14400, "EPT".text, by decide⟩

/-- The transitions of New York. -/
def transitions : List Transition := [
  ⟨-2717650800, est⟩, ⟨-1633280400, edt⟩, ⟨-1615140000, est⟩, ⟨-1601830800, edt⟩,
  ⟨-1583690400, est⟩, ⟨-1570381200, edt⟩, ⟨-1551636000, est⟩, ⟨-1536512400, edt⟩,
  ⟨-1523210400, est⟩, ⟨-1504458000, edt⟩, ⟨-1491760800, est⟩, ⟨-1473008400, edt⟩,
  ⟨-1459706400, est⟩, ⟨-1441558800, edt⟩, ⟨-1428256800, est⟩, ⟨-1410109200, edt⟩,
  ⟨-1396807200, est⟩, ⟨-1378659600, edt⟩, ⟨-1365357600, est⟩, ⟨-1347210000, edt⟩,
  ⟨-1333908000, est⟩, ⟨-1315155600, edt⟩, ⟨-1301853600, est⟩, ⟨-1283706000, edt⟩,
  ⟨-1270404000, est⟩, ⟨-1252256400, edt⟩, ⟨-1238954400, est⟩, ⟨-1220806800, edt⟩,
  ⟨-1207504800, est⟩, ⟨-1189357200, edt⟩, ⟨-1176055200, est⟩, ⟨-1157302800, edt⟩,
  ⟨-1144605600, est⟩, ⟨-1125853200, edt⟩, ⟨-1112551200, est⟩, ⟨-1094403600, edt⟩,
  ⟨-1081101600, est⟩, ⟨-1062954000, edt⟩, ⟨-1049652000, est⟩, ⟨-1031504400, edt⟩,
  ⟨-1018202400, est⟩, ⟨-1000054800, edt⟩, ⟨-986752800, est⟩, ⟨-968000400, edt⟩, ⟨-955303200, est⟩,
  ⟨-936550800, edt⟩, ⟨-923248800, est⟩, ⟨-905101200, edt⟩, ⟨-891799200, est⟩, ⟨-880218000, ewt⟩,
  ⟨-769395600, ept⟩, ⟨-765396000, est⟩, ⟨-747248400, edt⟩, ⟨-733946400, est⟩, ⟨-715798800, edt⟩,
  ⟨-702496800, est⟩, ⟨-684349200, edt⟩, ⟨-671047200, est⟩, ⟨-652899600, edt⟩, ⟨-639597600, est⟩,
  ⟨-620845200, edt⟩, ⟨-608148000, est⟩, ⟨-589395600, edt⟩, ⟨-576093600, est⟩, ⟨-557946000, edt⟩,
  ⟨-544644000, est⟩, ⟨-526496400, edt⟩, ⟨-513194400, est⟩, ⟨-495046800, edt⟩, ⟨-481744800, est⟩,
  ⟨-463597200, edt⟩, ⟨-447271200, est⟩, ⟨-431542800, edt⟩, ⟨-415821600, est⟩, ⟨-400093200, edt⟩,
  ⟨-384372000, est⟩, ⟨-368643600, edt⟩, ⟨-352922400, est⟩, ⟨-337194000, edt⟩, ⟨-321472800, est⟩,
  ⟨-305744400, edt⟩, ⟨-289418400, est⟩, ⟨-273690000, edt⟩, ⟨-257968800, est⟩, ⟨-242240400, edt⟩,
  ⟨-226519200, est⟩, ⟨-210790800, edt⟩, ⟨-195069600, est⟩, ⟨-179341200, edt⟩, ⟨-163620000, est⟩,
  ⟨-147891600, edt⟩, ⟨-131565600, est⟩, ⟨-116442000, edt⟩, ⟨-100116000, est⟩, ⟨-84387600, edt⟩,
  ⟨-68666400, est⟩, ⟨-52938000, edt⟩, ⟨-37216800, est⟩, ⟨-21488400, edt⟩, ⟨-5767200, est⟩,
  ⟨9961200, edt⟩, ⟨25682400, est⟩, ⟨41410800, edt⟩, ⟨57736800, est⟩, ⟨73465200, edt⟩,
  ⟨89186400, est⟩, ⟨104914800, edt⟩, ⟨120636000, est⟩, ⟨126687600, edt⟩, ⟨152085600, est⟩,
  ⟨162370800, edt⟩, ⟨183535200, est⟩, ⟨199263600, edt⟩, ⟨215589600, est⟩, ⟨230713200, edt⟩,
  ⟨247039200, est⟩, ⟨262767600, edt⟩, ⟨278488800, est⟩, ⟨294217200, edt⟩, ⟨309938400, est⟩,
  ⟨325666800, edt⟩, ⟨341388000, est⟩, ⟨357116400, edt⟩, ⟨372837600, est⟩, ⟨388566000, edt⟩,
  ⟨404892000, est⟩, ⟨420015600, edt⟩, ⟨436341600, est⟩, ⟨452070000, edt⟩, ⟨467791200, est⟩,
  ⟨483519600, edt⟩, ⟨499240800, est⟩, ⟨514969200, edt⟩, ⟨530690400, est⟩, ⟨544604400, edt⟩,
  ⟨562140000, est⟩, ⟨576054000, edt⟩, ⟨594194400, est⟩, ⟨607503600, edt⟩, ⟨625644000, est⟩,
  ⟨638953200, edt⟩, ⟨657093600, est⟩, ⟨671007600, edt⟩, ⟨688543200, est⟩, ⟨702457200, edt⟩,
  ⟨719992800, est⟩, ⟨733906800, edt⟩, ⟨752047200, est⟩, ⟨765356400, edt⟩, ⟨783496800, est⟩,
  ⟨796806000, edt⟩, ⟨814946400, est⟩, ⟨828860400, edt⟩, ⟨846396000, est⟩, ⟨860310000, edt⟩,
  ⟨877845600, est⟩, ⟨891759600, edt⟩, ⟨909295200, est⟩, ⟨923209200, edt⟩, ⟨941349600, est⟩,
  ⟨954658800, edt⟩, ⟨972799200, est⟩, ⟨986108400, edt⟩, ⟨1004248800, est⟩, ⟨1018162800, edt⟩,
  ⟨1035698400, est⟩, ⟨1049612400, edt⟩, ⟨1067148000, est⟩, ⟨1081062000, edt⟩, ⟨1099202400, est⟩,
  ⟨1112511600, edt⟩, ⟨1130652000, est⟩, ⟨1143961200, edt⟩, ⟨1162101600, est⟩, ⟨1173596400, edt⟩]

/-- The table of New York. -/
def table : Table := ⟨lmt, transitions, .yearly est edt ⟨3, 2, 0, 7200⟩ ⟨11, 1, 0, 7200⟩⟩

end NewYork

namespace Paris

/-! The offsets that Paris has had. -/

def lmt : Offset := ⟨561, "LMT".text, by decide⟩
def pmt : Offset := ⟨561, "PMT".text, by decide⟩
def wet : Offset := Offset.zero "WET".text
def west : Offset := ⟨3600, "WEST".text, by decide⟩
def cest : Offset := ⟨7200, "CEST".text, by decide⟩
def cet : Offset := ⟨3600, "CET".text, by decide⟩
def wemt : Offset := ⟨7200, "WEMT".text, by decide⟩

/-- The transitions of Paris. -/
def transitions : List Transition := [
  ⟨-2486592561, pmt⟩, ⟨-1855958961, wet⟩, ⟨-1689814800, west⟩, ⟨-1680397200, wet⟩,
  ⟨-1665363600, west⟩, ⟨-1648342800, wet⟩, ⟨-1635123600, west⟩, ⟨-1616893200, wet⟩,
  ⟨-1604278800, west⟩, ⟨-1585443600, wet⟩, ⟨-1574038800, west⟩, ⟨-1552266000, wet⟩,
  ⟨-1539997200, west⟩, ⟨-1520557200, wet⟩, ⟨-1507510800, west⟩, ⟨-1490576400, wet⟩,
  ⟨-1470618000, west⟩, ⟨-1459126800, wet⟩, ⟨-1444006800, west⟩, ⟨-1427677200, wet⟩,
  ⟨-1411952400, west⟩, ⟨-1396227600, wet⟩, ⟨-1379293200, west⟩, ⟨-1364778000, wet⟩,
  ⟨-1348448400, west⟩, ⟨-1333328400, wet⟩, ⟨-1316394000, west⟩, ⟨-1301274000, wet⟩,
  ⟨-1284339600, west⟩, ⟨-1269824400, wet⟩, ⟨-1253494800, west⟩, ⟨-1238374800, wet⟩,
  ⟨-1221440400, west⟩, ⟨-1206925200, wet⟩, ⟨-1191200400, west⟩, ⟨-1175475600, wet⟩,
  ⟨-1160355600, west⟩, ⟨-1143421200, wet⟩, ⟨-1127696400, west⟩, ⟨-1111971600, wet⟩,
  ⟨-1096851600, west⟩, ⟨-1080522000, wet⟩, ⟨-1063587600, west⟩, ⟨-1049072400, wet⟩,
  ⟨-1033347600, west⟩, ⟨-1017622800, wet⟩, ⟨-1002502800, west⟩, ⟨-986173200, wet⟩,
  ⟨-969238800, west⟩, ⟨-950490000, wet⟩, ⟨-942012000, west⟩, ⟨-932436000, cest⟩,
  ⟨-857257200, cet⟩, ⟨-844556400, cest⟩, ⟨-828226800, cet⟩, ⟨-812502000, cest⟩,
  ⟨-800071200, wemt⟩, ⟨-796266000, west⟩, ⟨-781052400, wemt⟩, ⟨-766623600, cet⟩,
  ⟨196819200, cest⟩, ⟨212540400, cet⟩, ⟨228877200, cest⟩, ⟨243997200, cet⟩, ⟨260326800, cest⟩,
  ⟨276051600, cet⟩, ⟨291776400, cest⟩, ⟨307501200, cet⟩, ⟨323830800, cest⟩, ⟨338950800, cet⟩,
  ⟨354675600, cest⟩, ⟨370400400, cet⟩, ⟨386125200, cest⟩, ⟨401850000, cet⟩, ⟨417574800, cest⟩,
  ⟨433299600, cet⟩, ⟨449024400, cest⟩, ⟨465354000, cet⟩, ⟨481078800, cest⟩, ⟨496803600, cet⟩,
  ⟨512528400, cest⟩, ⟨528253200, cet⟩, ⟨543978000, cest⟩, ⟨559702800, cet⟩, ⟨575427600, cest⟩,
  ⟨591152400, cet⟩, ⟨606877200, cest⟩, ⟨622602000, cet⟩, ⟨638326800, cest⟩, ⟨654656400, cet⟩,
  ⟨670381200, cest⟩, ⟨686106000, cet⟩, ⟨701830800, cest⟩, ⟨717555600, cet⟩, ⟨733280400, cest⟩,
  ⟨749005200, cet⟩, ⟨764730000, cest⟩, ⟨780454800, cet⟩, ⟨796179600, cest⟩, ⟨811904400, cet⟩,
  ⟨828234000, cest⟩]

/-- The table of Paris. -/
def table : Table := ⟨lmt, transitions, .yearly cet cest ⟨3, 5, 0, 7200⟩ ⟨10, 5, 0, 10800⟩⟩

end Paris

namespace Kolkata

/-! The offsets that Kolkata has had. -/

def lmt : Offset := ⟨21208, "LMT".text, by decide⟩
def hmt : Offset := ⟨21200, "HMT".text, by decide⟩
def mmt : Offset := ⟨19270, "MMT".text, by decide⟩
def ist : Offset := ⟨19800, "IST".text, by decide⟩
def plus0630 : Offset := ⟨23400, "+0630".text, by decide⟩

/-- The transitions of Kolkata. -/
def transitions : List Transition := [
  ⟨-3645237208, hmt⟩, ⟨-3155694800, mmt⟩, ⟨-2019705670, ist⟩, ⟨-891581400, plus0630⟩,
  ⟨-872058600, ist⟩, ⟨-862637400, plus0630⟩, ⟨-764145000, ist⟩]

/-- The table of Kolkata. -/
def table : Table := ⟨lmt, transitions, .constant ist⟩

end Kolkata

namespace Kathmandu

/-! The offsets that Kathmandu has had. -/

def lmt : Offset := ⟨20476, "LMT".text, by decide⟩
def plus0530 : Offset := ⟨19800, "+0530".text, by decide⟩
def plus0545 : Offset := ⟨20700, "+0545".text, by decide⟩

/-- The transitions of Kathmandu. -/
def transitions : List Transition := [
  ⟨-1577943676, plus0530⟩, ⟨504901800, plus0545⟩]

/-- The table of Kathmandu. -/
def table : Table := ⟨lmt, transitions, .constant plus0545⟩

end Kathmandu

namespace LordHowe

/-! The offsets that Lord Howe Island has had. -/

def lmt : Offset := ⟨38180, "LMT".text, by decide⟩
def aest : Offset := ⟨36000, "AEST".text, by decide⟩
def plus1030 : Offset := ⟨37800, "+1030".text, by decide⟩
def plus1130 : Offset := ⟨41400, "+1130".text, by decide⟩
def plus11 : Offset := ⟨39600, "+11".text, by decide⟩

/-- The transitions of Lord Howe Island. -/
def transitions : List Transition := [
  ⟨-2364114980, aest⟩, ⟨352216800, plus1030⟩, ⟨372785400, plus1130⟩, ⟨384273000, plus1030⟩,
  ⟨404839800, plus1130⟩, ⟨415722600, plus1030⟩, ⟨436289400, plus1130⟩, ⟨447172200, plus1030⟩,
  ⟨467739000, plus1130⟩, ⟨478621800, plus1030⟩, ⟨499188600, plus11⟩, ⟨511282800, plus1030⟩,
  ⟨530033400, plus11⟩, ⟨542732400, plus1030⟩, ⟨562087800, plus11⟩, ⟨574786800, plus1030⟩,
  ⟨594142200, plus11⟩, ⟨606236400, plus1030⟩, ⟨625591800, plus11⟩, ⟨636476400, plus1030⟩,
  ⟨657041400, plus11⟩, ⟨667926000, plus1030⟩, ⟨688491000, plus11⟩, ⟨699375600, plus1030⟩,
  ⟨719940600, plus11⟩, ⟨731430000, plus1030⟩, ⟨751995000, plus11⟩, ⟨762879600, plus1030⟩,
  ⟨783444600, plus11⟩, ⟨794329200, plus1030⟩, ⟨814894200, plus11⟩, ⟨828198000, plus1030⟩,
  ⟨846343800, plus11⟩, ⟨859647600, plus1030⟩, ⟨877793400, plus11⟩, ⟨891097200, plus1030⟩,
  ⟨909243000, plus11⟩, ⟨922546800, plus1030⟩, ⟨941297400, plus11⟩, ⟨953996400, plus1030⟩,
  ⟨967303800, plus11⟩, ⟨985446000, plus1030⟩, ⟨1004196600, plus11⟩, ⟨1017500400, plus1030⟩,
  ⟨1035646200, plus11⟩, ⟨1048950000, plus1030⟩, ⟨1067095800, plus11⟩, ⟨1080399600, plus1030⟩,
  ⟨1099150200, plus11⟩, ⟨1111849200, plus1030⟩, ⟨1130599800, plus11⟩, ⟨1143903600, plus1030⟩,
  ⟨1162049400, plus11⟩, ⟨1174748400, plus1030⟩, ⟨1193499000, plus11⟩, ⟨1207407600, plus1030⟩]

/-- The table of Lord Howe Island. -/
def table : Table := ⟨lmt, transitions, .yearly plus1030 plus11 ⟨10, 1, 0, 7200⟩ ⟨4, 1, 0, 7200⟩⟩

end LordHowe

namespace Monrovia

/-! The offsets that Monrovia has had. -/

def lmt : Offset := ⟨-2588, "LMT".text, by decide⟩
def mmtFirst : Offset := ⟨-2588, "MMT".text, by decide⟩
def mmtSecond : Offset := ⟨-2670, "MMT".text, by decide⟩
def gmt : Offset := Offset.zero "GMT".text

/-- The transitions of Monrovia. -/
def transitions : List Transition := [
  ⟨-2776979812, mmtFirst⟩, ⟨-1604359012, mmtSecond⟩, ⟨63593070, gmt⟩]

/-- The table of Monrovia. -/
def table : Table := ⟨lmt, transitions, .constant gmt⟩

end Monrovia

namespace SaoPaulo

/-! The offsets that São Paulo has had. -/

def lmt : Offset := ⟨-11188, "LMT".text, by decide⟩
def minus03 : Offset := ⟨-10800, "-03".text, by decide⟩
def minus02 : Offset := ⟨-7200, "-02".text, by decide⟩

/-- The transitions of São Paulo. -/
def transitions : List Transition := [
  ⟨-1767214412, minus03⟩, ⟨-1206957600, minus02⟩, ⟨-1191362400, minus03⟩, ⟨-1175374800, minus02⟩,
  ⟨-1159826400, minus03⟩, ⟨-633819600, minus02⟩, ⟨-622069200, minus03⟩, ⟨-602283600, minus02⟩,
  ⟨-591832800, minus03⟩, ⟨-570747600, minus02⟩, ⟨-560210400, minus03⟩, ⟨-539125200, minus02⟩,
  ⟨-531352800, minus03⟩, ⟨-195426000, minus02⟩, ⟨-184197600, minus03⟩, ⟨-155163600, minus02⟩,
  ⟨-149983200, minus03⟩, ⟨-128898000, minus02⟩, ⟨-121122000, minus03⟩, ⟨-99954000, minus02⟩,
  ⟨-89589600, minus03⟩, ⟨-68418000, minus02⟩, ⟨-57967200, minus03⟩, ⟨499748400, minus02⟩,
  ⟨511236000, minus03⟩, ⟨530593200, minus02⟩, ⟨540266400, minus03⟩, ⟨562129200, minus02⟩,
  ⟨571197600, minus03⟩, ⟨592974000, minus02⟩, ⟨602042400, minus03⟩, ⟨624423600, minus02⟩,
  ⟨634701600, minus03⟩, ⟨656478000, minus02⟩, ⟨666756000, minus03⟩, ⟨687927600, minus02⟩,
  ⟨697600800, minus03⟩, ⟨719982000, minus02⟩, ⟨728445600, minus03⟩, ⟨750826800, minus02⟩,
  ⟨761709600, minus03⟩, ⟨782276400, minus02⟩, ⟨793159200, minus03⟩, ⟨813726000, minus02⟩,
  ⟨824004000, minus03⟩, ⟨844570800, minus02⟩, ⟨856058400, minus03⟩, ⟨876106800, minus02⟩,
  ⟨888717600, minus03⟩, ⟨908074800, minus02⟩, ⟨919562400, minus03⟩, ⟨938919600, minus02⟩,
  ⟨951616800, minus03⟩, ⟨970974000, minus02⟩, ⟨982461600, minus03⟩, ⟨1003028400, minus02⟩,
  ⟨1013911200, minus03⟩, ⟨1036292400, minus02⟩, ⟨1045360800, minus03⟩, ⟨1066532400, minus02⟩,
  ⟨1076810400, minus03⟩, ⟨1099364400, minus02⟩, ⟨1108864800, minus03⟩, ⟨1129431600, minus02⟩,
  ⟨1140314400, minus03⟩, ⟨1162695600, minus02⟩, ⟨1172368800, minus03⟩, ⟨1192330800, minus02⟩,
  ⟨1203213600, minus03⟩, ⟨1224385200, minus02⟩, ⟨1234663200, minus03⟩, ⟨1255834800, minus02⟩,
  ⟨1266717600, minus03⟩, ⟨1287284400, minus02⟩, ⟨1298167200, minus03⟩, ⟨1318734000, minus02⟩,
  ⟨1330221600, minus03⟩, ⟨1350788400, minus02⟩, ⟨1361066400, minus03⟩, ⟨1382238000, minus02⟩,
  ⟨1392516000, minus03⟩, ⟨1413687600, minus02⟩, ⟨1424570400, minus03⟩, ⟨1445137200, minus02⟩,
  ⟨1456020000, minus03⟩, ⟨1476586800, minus02⟩, ⟨1487469600, minus03⟩, ⟨1508036400, minus02⟩,
  ⟨1518919200, minus03⟩, ⟨1541300400, minus02⟩, ⟨1550368800, minus03⟩]

/-- The table of São Paulo. -/
def table : Table := ⟨lmt, transitions, .constant minus03⟩

end SaoPaulo

namespace Apia

/-! The offsets that Apia has had. -/

def lmtAhead : Offset := ⟨45184, "LMT".text, by decide⟩
def lmtBehind : Offset := ⟨-41216, "LMT".text, by decide⟩
def minus1130 : Offset := ⟨-41400, "-1130".text, by decide⟩
def minus11 : Offset := ⟨-39600, "-11".text, by decide⟩
def minus10 : Offset := ⟨-36000, "-10".text, by decide⟩
def plus14 : Offset := ⟨50400, "+14".text, by decide⟩
def plus13 : Offset := ⟨46800, "+13".text, by decide⟩

/-- The transitions of Apia. -/
def transitions : List Transition := [
  ⟨-2445424384, lmtBehind⟩, ⟨-1861878784, minus1130⟩, ⟨-631110600, minus11⟩,
  ⟨1285498800, minus10⟩, ⟨1301752800, minus11⟩, ⟨1316872800, minus10⟩, ⟨1325239200, plus14⟩,
  ⟨1333202400, plus13⟩, ⟨1348927200, plus14⟩, ⟨1365256800, plus13⟩, ⟨1380376800, plus14⟩,
  ⟨1396706400, plus13⟩, ⟨1411826400, plus14⟩, ⟨1428156000, plus13⟩, ⟨1443276000, plus14⟩,
  ⟨1459605600, plus13⟩, ⟨1474725600, plus14⟩, ⟨1491055200, plus13⟩, ⟨1506175200, plus14⟩,
  ⟨1522504800, plus13⟩, ⟨1538229600, plus14⟩, ⟨1554559200, plus13⟩, ⟨1569679200, plus14⟩,
  ⟨1586008800, plus13⟩, ⟨1601128800, plus14⟩, ⟨1617458400, plus13⟩]

/-- The table of Apia. -/
def table : Table := ⟨lmtAhead, transitions, .constant plus13⟩

end Apia

namespace Kiritimati

/-! The offsets that Kiritimati has had. -/

def lmt : Offset := ⟨-37760, "LMT".text, by decide⟩
def minus1040 : Offset := ⟨-38400, "-1040".text, by decide⟩
def minus10 : Offset := ⟨-36000, "-10".text, by decide⟩
def plus14 : Offset := ⟨50400, "+14".text, by decide⟩

/-- The transitions of Kiritimati. -/
def transitions : List Transition := [
  ⟨-2177415040, minus1040⟩, ⟨307622400, minus10⟩, ⟨788868000, plus14⟩]

/-- The table of Kiritimati. -/
def table : Table := ⟨lmt, transitions, .constant plus14⟩

end Kiritimati

/-- The tables of the named zones other than universal time. -/
def namedTables : List (Text × Table) := [
  ("America/New_York".text, NewYork.table),
  ("Europe/Paris".text, Paris.table),
  ("Asia/Kolkata".text, Kolkata.table),
  ("Asia/Kathmandu".text, Kathmandu.table),
  ("Australia/Lord_Howe".text, LordHowe.table),
  ("Africa/Monrovia".text, Monrovia.table),
  ("America/Sao_Paulo".text, SaoPaulo.table),
  ("Pacific/Apia".text, Apia.table),
  ("Pacific/Kiritimati".text, Kiritimati.table)]

/-- The zones of the tables and universal time, which is also the time of the system. -/
def Database.tabulated : Database where
  named? name := if name = "UTC".text then some utc else (namedTables.lookup name).map ofTable
  system := utc

/-- Whether each transition comes before the next. -/
def ascending : List Transition → Bool
  | first :: second :: others => first.instant < second.instant && ascending (second :: others)
  | _ => true

/-- The transitions of every table are in the order of their instants. -/
theorem transitions_ascending : namedTables.all fun entry => ascending entry.2.transitions := by
  decide +kernel

end RecordingName.Zone
