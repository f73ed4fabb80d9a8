/-!
Offset histories of the zones whose names begin with `Antarctica/`.
-/

namespace Almanac.Zone.History

def antarctica : List (String × String) := [
  ("Antarctica/Casey", "
      0 -31536000:28800 1255802400:39600 1267714800:28800 1319738400:39600 1329843600:28800
      1477065600:39600 1520701200:28800 1538856000:39600 1552752000:28800 1570129200:39600
      1583596800:28800 1601740860:39600 1615640400:28800 1633190460:39600 1647090000:28800
      1664640060:39600 1678291200:28800"),
  ("Antarctica/Davis", "
      0 -409190400:25200 -163062000:0 -28857600:25200 1255806000:18000 1268251200:25200
      1319742000:18000 1329854400:25200"),
  ("Antarctica/Macquarie", "
      0 -2214259200:36000 -1680508800:39600 -1665388800:36000 -1601719200:0 -687052800:36000
      -71136000:39600 -55411200:36000 -37267200:39600 -25776000:36000 -5817600:39600
      5673600:36000 25632000:39600 37728000:36000 57686400:39600 67968000:36000 89136000:39600
      100022400:36000 120585600:39600 131472000:36000 152035200:39600 162921600:36000
      183484800:39600 194976000:36000 215539200:39600 226425600:36000 246988800:39600
      257875200:36000 278438400:39600 289324800:36000 309888000:39600 320774400:36000
      341337600:39600 352224000:36000 372787200:39600 386092800:36000 404841600:39600
      417542400:36000 436291200:39600 447177600:36000 467740800:39600 478627200:36000
      499190400:39600 510076800:36000 530035200:39600 542736000:36000 562089600:39600
      574790400:36000 594144000:39600 606240000:36000 625593600:39600 637689600:36000
      657043200:39600 670348800:36000 686678400:39600 701798400:36000 718128000:39600
      733248000:36000 749577600:39600 764697600:36000 781027200:39600 796147200:36000
      812476800:39600 828201600:36000 844531200:39600 859651200:36000 875980800:39600
      891100800:36000 907430400:39600 922550400:36000 938880000:39600 954000000:36000
      967305600:39600 985449600:36000 1002384000:39600 1017504000:36000 1033833600:39600
      1048953600:36000 1065283200:39600 1080403200:36000 1096732800:39600 1111852800:36000
      1128182400:39600 1143907200:36000 1159632000:39600 1174752000:36000 1191686400:39600
      1207411200:36000 1223136000:39600 1238860800:36000 1254585600:39600 yearly 2011 36000
      39600 10.1.0/7200 4.1.0/10800"),
  ("Antarctica/Mawson", "0 -501206400:21600 1255809600:18000"),
  ("Antarctica/Palmer", "
      0 -157766400:-10800 -152658000:-14400 -132955200:-10800 -121122000:-14400
      -101419200:-10800 -86821200:-14400 -71092800:-10800 -54766800:-14400 -39038400:-10800
      -23317200:-14400 -7588800:-10800 128142000:-7200 136605600:-10800 389070000:-14400
      403070400:-10800 416372400:-14400 434520000:-10800 447822000:-14400 466574400:-10800
      479271600:-14400 498024000:-10800 510721200:-14400 529473600:-10800 545194800:-14400
      560923200:-10800 574225200:-14400 592372800:-10800 605674800:-14400 624427200:-10800
      637124400:-14400 653457600:-10800 668574000:-14400 687326400:-10800 700628400:-14400
      718776000:-10800 732078000:-14400 750225600:-10800 763527600:-14400 781675200:-10800
      794977200:-14400 813729600:-10800 826426800:-14400 845179200:-10800 859690800:-14400
      876628800:-10800 889930800:-14400 906868800:-10800 923194800:-14400 939528000:-10800
      952830000:-14400 971582400:-10800 984279600:-14400 1003032000:-10800 1015729200:-14400
      1034481600:-10800 1047178800:-14400 1065931200:-10800 1079233200:-14400
      1097380800:-10800 1110682800:-14400 1128830400:-10800 1142132400:-14400
      1160884800:-10800 1173582000:-14400 1192334400:-10800 1206846000:-14400
      1223784000:-10800 1237086000:-14400 1255233600:-10800 1270350000:-14400
      1286683200:-10800 1304823600:-14400 1313899200:-10800 1335668400:-14400
      1346558400:-10800 1367118000:-14400 1378612800:-10800 1398567600:-14400
      1410062400:-10800 1463281200:-14400 1471147200:-10800"),
  ("Antarctica/Rothera", "0 218246400:-10800"),
  ("Antarctica/Troll", "0 yearly 2005 0 7200 3.5.0/3600 10.5.0/10800"),
  ("Antarctica/Vostok", "0 -380073600:25200 760035600:0 783648000:25200 1702839600:18000")]

end Almanac.Zone.History
