/-
**Time zones of the Americas.**

One record for each name, in the form that `NodeSidecar.Zone.Record` reads: the offsets the zone
has used, in seconds, then its changes as the seconds since the change before it with the letter
of the offset that begins, then the yearly rule it still follows; or `=` and the name of the zone
that it is another name of.  A line that begins with a space continues the record before it.
-/

set_option autoImplicit false

namespace NodeSidecar.Zone.Table

/-- The records of the zones of the Americas. -/
def america : String := "America/Adak 44002,-42398,-39600,-36000,-32400
 -3225223727b1036278925c1308748402d114822000c743907600d15721200c15728400d15721200c15728400d
 16326000c15728400d15721200c15728400d15721200c6051600d25398000c10285200d21164400c15728400d
 16326000c15123600d16326000c15728400d15721200c15728400d15721200c15728400d15721200c15728400d
 15721200c15728400d16326000c15123600d32050800e15721200d15728400e15721200d15728400e15721200d
 13914000e17535600d13914000e18140400d13309200e18140400d13309200e18140400d13914000e17535600d
 13914000e17535600d13914000e18140400d13309200e18140400d13309200e18140400d13914000e17535600d
 13914000e17535600d13914000e17535600d13914000e18140400d13309200e18140400d13309200e18140400d
 13914000e17535600d13914000e17535600d13914000e18140400d13309200e18140400d13309200e18140400d
 @-36000,-32400,3,2,0,7200,11,1,0,7200
America/Anchorage 50424,-35976,-36000,-32400,-28800
 -3225223727b1036272503c1308751224d114822000c743907600d15721200c15728400d15721200c15728400d
 16326000c15728400d15721200c15728400d15721200c6051600d25398000c10285200d21164400c15728400d
 16326000c15123600d16326000c15728400d15721200c15728400d15721200c15728400d15721200c15728400d
 15721200c15728400d16326000c15123600d32050800e15721200d15728400e15721200d15728400e15721200d
 13914000e17535600d13914000e18140400d13309200e18140400d13309200e18140400d13914000e17535600d
 13914000e17535600d13914000e18140400d13309200e18140400d13309200e18140400d13914000e17535600d
 13914000e17535600d13914000e17535600d13914000e18140400d13309200e18140400d13309200e18140400d
 13914000e17535600d13914000e17535600d13914000e18140400d13309200e18140400d13309200e18140400d
 @-32400,-28800,3,2,0,7200,11,1,0,7200
America/Anguilla -15136,-14400 -1825098464b
America/Antigua -14832,-18000,-14400 -1825098768b1225500768c
America/Araguaina -11568,-10800,-7200
 -1767214032b560256432c15595200b15987600c15548400b526006800c11750400b19785600c10450800b
 21085200c10537200b21085200c7772400b339987600c7167600b29034000c5094000b21171600c7772400b
 21171600c10364400b21171600c10450800b557715600c11487600b19357200c9673200b21862800c9068400b
 21776400c9068400b22381200c10278000b179024400c10278000b20566800c11487600b20048400c12610800b
 19357200c11487600b19357200c12697200b19357200c11487600b20566800c10882800b22381200c9068400b
 305427600c10278000b
America/Argentina/Buenos_Aires -14028,-15408,-14400,-10800,-7200
 -2372097972b804644580c334021392d10450800c17024400d11919600c21171600d10364400c21171600d
 10364400c21171600d10364400c21171600d10450800c21171600d10364400c21171600d10364400c21171600d
 10364400c21171600d10450800c10544400d30150000c10544400d56588400c6483600d74991600c18493200d
 536454000c6483600d6649200c19702800d11833200c19702800d11833200c19702800d14598000c15728400d
 16326000c15728400d15721200c15728400d135730800e8463600d460342800e8118000d19357200e12092400d
 19962000e11487600d19962000e11487600d19962000e12092400d467514000e6649200d18752400e12697200d
America/Argentina/Catamarca -15788,-15408,-14400,-10800,-7200
 -2372096212b804642820c334021392d10450800c17024400d11919600c21171600d10364400c21171600d
 10364400c21171600d10364400c21171600d10450800c21171600d10364400c21171600d10364400c21171600d
 10364400c21171600d10450800c10544400d30150000c10544400d56588400c6483600d74991600c18493200d
 536454000c6483600d6649200c19702800d11833200c19702800d11833200c19702800d14598000c15728400d
 16326000c15728400d15721200c15728400d135730800e8463600d460342800e8118000d19357200e12092400d
 19962000e11487600c19965600e11484000d19962000e12092400d354589200c1645200d111279600e6649200d
America/Argentina/ComodRivadavia =America/Argentina/Catamarca
America/Argentina/Cordoba -15408,-14400,-10800,-7200
 -1567453392b334021392c10450800b17024400c11919600b21171600c10364400b21171600c10364400b
 21171600c10364400b21171600c10450800b21171600c10364400b21171600c10364400b21171600c10364400b
 21171600c10450800b10544400c30150000b10544400c56588400b6483600c74991600b18493200c536454000b
 6483600c6649200b19702800c11833200b19702800c11833200b19702800c14598000b15728400c16326000b
 15728400c15721200b15728400c135730800d8463600c460342800d8118000c19357200d12092400c19962000d
 11487600b19965600d11484000c19962000d12092400c467514000d6649200c18752400d12697200c
America/Argentina/Jujuy -15672,-15408,-14400,-10800,-7200
 -2372096328b804642936c334021392d10450800c17024400d11919600c21171600d10364400c21171600d
 10364400c21171600d10364400c21171600d10450800c21171600d10364400c21171600d10364400c21171600d
 10364400c21171600d10450800c10544400d30150000c10544400d56588400c6483600d74991600c18493200d
 536454000c6483600d6649200c19702800d11833200c19702800d11833200c19702800d14598000c15728400d
 16326000c15728400d15721200c15728400d135730800e8463600d460342800e8118000d19357200e12092400c
 20570400d12092400c17542800e12693600d19962000e12092400d467514000e6649200d
America/Argentina/La_Rioja -16044,-15408,-14400,-10800,-7200
 -2372095956b804642564c334021392d10450800c17024400d11919600c21171600d10364400c21171600d
 10364400c21171600d10364400c21171600d10450800c21171600d10364400c21171600d10364400c21171600d
 10364400c21171600d10450800c10544400d30150000c10544400d56588400c6483600d74991600c18493200d
 536454000c6483600d6649200c19702800d11833200c19702800d11833200c19702800d14598000c15728400d
 16326000c15728400d15721200c15728400d135730800e8463600d460342800e8118000d19357200e12092400d
 19962000e11314800c5796000d14338800e11487600d19962000e12092400d354589200c1645200d111279600e
 6649200d
America/Argentina/Mendoza -16516,-15408,-14400,-10800,-7200
 -2372095484b804642092c334021392d10450800c17024400d11919600c21171600d10364400c21171600d
 10364400c21171600d10364400c21171600d10450800c21171600d10364400c21171600d10364400c21171600d
 10364400c21171600d10450800c10544400d30150000c10544400d56588400c6483600d74991600c18493200d
 536454000c6483600d6649200c19702800d11833200c19702800d11833200c19702800d14598000c15728400d
 16326000c15728400d15721200c15728400d135730800e8463600d460342800e8118000d19357200e12092400c
 19447200d11833200c19702800d11919600c19962000e12088800d353811600c10890000d102812400e 6649200d
America/Argentina/Rio_Gallegos -16612,-15408,-14400,-10800,-7200
 -2372095388b804641996c334021392d10450800c17024400d11919600c21171600d10364400c21171600d
 10364400c21171600d10364400c21171600d10450800c21171600d10364400c21171600d10364400c21171600d
 10364400c21171600d10450800c10544400d30150000c10544400d56588400c6483600d74991600c18493200d
 536454000c6483600d6649200c19702800d11833200c19702800d11833200c19702800d14598000c15728400d
 16326000c15728400d15721200c15728400d135730800e8463600d460342800e8118000d19357200e12092400d
 19962000e11487600d19962000e11487600d19962000e12092400d354589200c1645200d111279600e6649200d
America/Argentina/Salta -15700,-15408,-14400,-10800,-7200
 -2372096300b804642908c334021392d10450800c17024400d11919600c21171600d10364400c21171600d
 10364400c21171600d10364400c21171600d10450800c21171600d10364400c21171600d10364400c21171600d
 10364400c21171600d10450800c10544400d30150000c10544400d56588400c6483600d74991600c18493200d
 536454000c6483600d6649200c19702800d11833200c19702800d11833200c19702800d14598000c15728400d
 16326000c15728400d15721200c15728400d135730800e8463600d460342800e8118000d19357200e12092400d
 19962000e11487600c19965600e11484000d19962000e12092400d467514000e6649200d
America/Argentina/San_Juan -16444,-15408,-14400,-10800,-7200
 -2372095556b804642164c334021392d10450800c17024400d11919600c21171600d10364400c21171600d
 10364400c21171600d10364400c21171600d10450800c21171600d10364400c21171600d10364400c21171600d
 10364400c21171600d10450800c10544400d30150000c10544400d56588400c6483600d74991600c18493200d
 536454000c6483600d6649200c19702800d11833200c19702800d11833200c19702800d14598000c15728400d
 16326000c15728400d15721200c15728400d135730800e8463600d460342800e8118000d19357200e12092400d
 19962000e11314800c5796000d14338800e11487600d19962000e12092400d354502800c4755600d108255600e
 6649200d
America/Argentina/San_Luis -15924,-15408,-14400,-10800,-7200
 -2372096076b804642684c334021392d10450800c17024400d11919600c21171600d10364400c21171600d
 10364400c21171600d10364400c21171600d10450800c21171600d10364400c21171600d10364400c21171600d
 10364400c21171600d10450800c10544400d30150000c10544400d56588400c6483600d74991600c18493200d
 536454000c6483600d6649200c19702800d11833200c19702800d11833200c19702800d14598000c15728400d
 16326000c15728400d15721200c15728400d135730800e8463600d460342800e8118000d19357200e12956400c
 18583200d11833200c7952400d410223600c4755600d108255600e1897200d4150800c18752400d12697200c
 18752400d
America/Argentina/Tucuman -15652,-15408,-14400,-10800,-7200
 -2372096348b804642956c334021392d10450800c17024400d11919600c21171600d10364400c21171600d
 10364400c21171600d10364400c21171600d10450800c21171600d10364400c21171600d10364400c21171600d
 10364400c21171600d10450800c10544400d30150000c10544400d56588400c6483600d74991600c18493200d
 536454000c6483600d6649200c19702800d11833200c19702800d11833200c19702800d14598000c15728400d
 16326000c15728400d15721200c15728400d135730800e8463600d460342800e8118000d19357200e12092400d
 19962000e11487600c19965600e11484000d19962000e12092400d354589200c1040400d111884400e6649200d
 18752400e12697200d
America/Argentina/Ushuaia -16392,-15408,-14400,-10800,-7200
 -2372095608b804642216c334021392d10450800c17024400d11919600c21171600d10364400c21171600d
 10364400c21171600d10364400c21171600d10450800c21171600d10364400c21171600d10364400c21171600d
 10364400c21171600d10450800c10544400d30150000c10544400d56588400c6483600d74991600c18493200d
 536454000c6483600d6649200c19702800d11833200c19702800d11833200c19702800d14598000c15728400d
 16326000c15728400d15721200c15728400d135730800e8463600d460342800e8118000d19357200e12092400d
 19962000e11487600d19962000e11487600d19962000e12092400d354416400c1818000d111279600e6649200d
America/Aruba -16824,-16200,-14400 -1826738376b1668988176c
America/Asuncion -13840,-14400,-10800
 -1206389360b1293149360c47257200b47350800c13129200b18493200c13042800b18493200c13042800b
 18493200c15721200b15814800c15807600b15814800c15721200b15814800c15721200b15814800c15721200b
 15814800c15807600b15814800c15721200b15814800c15721200b15814800c15721200b15814800c15807600b
 15814800c15721200b17629200c13906800b15814800c15721200b16246800c12697200b18838800c15289200b
 15901200c12870000b18666000c12783600b18752400c13129200b18925200c12092400b19357200c12697200b
 18752400c13302000b18147600c13302000b18147600c13302000b18752400c15721200b12704400c18745200b
 13309200c18140400b16938000c12697200b18752400c12697200b18752400c12697200b19357200c12092400b
 19357200c12092400b19357200c15116400b15123600c16326000b15123600c16326000b15728400c14511600b
 16938000c14511600b16938000c14511600b16938000c15116400b16333200c15116400b16333200c15116400b
 16938000c14511600b16938000c14511600b16938000c15116400b16333200c15116400b16333200c15116400b
 16333200c15116400b16938000c
America/Atikokan -21988,-21600,-18000 -2366733212b734666012c16930800b691887600c
America/Atka =America/Adak
America/Bahia -9244,-10800,-7200
 -1767216356b560258756c15595200b15987600c15548400b526006800c11750400b19785600c10450800b
 21085200c10537200b21085200c7772400b339987600c7167600b29034000c5094000b21171600c7772400b
 21171600c10364400b21171600c10450800b557715600c11487600b19357200c9673200b21862800c9068400b
 21776400c9068400b22381200c10278000b21776400c10278000b21171600c9673200b22381200c8463600b
 22381200c10882800b20566800c10882800b20566800c10278000b20566800c11487600b20048400c12610800b
 19357200c11487600b19357200c12697200b19357200c11487600b20566800c10882800b22381200c9068400b
 273373200c11487600b
America/Bahia_Banderas -25260,-25200,-21600,-18000
 -1514739600b171590400c108342000b14346000c13302000b15814800c317516400b1702695600c17535600b
 13914000c17535600b13914000c17535600b13914000c18140400b13309200c18140400b16333200c12697200b
 16333200c17535600b13914000c17535600b13914000c18140400b13309200c18140400b13309200c18140400b
 13309200c18140400b13914000c17535600b13914000c17535600b13914000d18136800c13309200d18140400c
 13309200d18140400c13914000d17535600c13914000d17535600c13914000d17535600c13914000d18140400c
 13309200d18140400c13309200d18140400c13914000d17535600c13914000d17535600c13914000d18140400c
 13309200d18140400c
America/Barbados -14309,-14400,-10800,-12600
 -1841256091b966992491c11581200b21078000c10890000b18831600d13222800b1033603200c9673200b
 16938000c14511600b16938000c14511600b17542800c13647600b
America/Belem -11636,-10800,-7200
 -1767213964b560256364c15595200b15987600c15548400b526006800c11750400b19785600c10450800b
 21085200c10537200b21085200c7772400b339987600c7167600b29034000c5094000b21171600c7772400b
 21171600c10364400b21171600c10450800b557715600c11487600b19357200c9673200b21862800c9068400b
America/Belize -21168,-21600,-19800,-18000
 -1822500432b205546032c10884600b20565000c11489400b19960200c11489400b19960200c11489400b
 20565000c10884600b20565000c10884600b20565000c11489400b19960200c11489400b19960200c11489400b
 19960200c11489400b20565000c10884600b20565000c10884600b20565000c11489400b19960200c11489400b
 19960200c11489400b20565000c10884600b20565000c10884600b20565000c10884600b20565000c11489400b
 19960200c11489400b19960200c11489400b20565000c10884600b20565000c10884600b20565000c11489400b
 11493000d109465200b56854800c11489400b19960200c11489400b19960200c11489400b20565000c
 10884600b20565000c10884600b20565000c11489400b19960200c11489400b19960200c11489400b19960200c
 11489400b20565000c10884600b20565000c10884600b20565000c11489400b19960200c11489400b19960200c
 11489400b20565000c10884600b20565000c10884600b20565000c10884600b20565000c11489400b19960200c
 11489400b19960200c11489400b20565000c10884600b183515400d5698800b279421200d4834800b
America/Blanc-Sablon -13708,-14400,-10800 -2713896692b1081822292c16930800b734922000c114822000b
America/Boa_Vista -14560,-14400,-10800
 -1767211040b560257040c15595200b15987600c15548400b526006800c11750400b19785600c10450800b
 21085200c10537200b21085200c7772400b339987600c7167600b29034000c5094000b21171600c7772400b
 21171600c10364400b21171600c10450800b557715600c11487600b19357200c9673200b21862800c9068400b
 367722000c12697200b19357200c601200b
America/Bogota -17776,-18000,-14400 -1739041424b2443910624c24188400b
America/Boise -27889,-28800,-25200,-21600
 -2717640000b1084370400c18140400b13309200c18140400b111891600c591577200d114822000c681008400d
 15721200c15728400d15721200c15728400d15721200c15728400d15721200c15728400d16326000c15728400d
 15721200c15728400d15721200c8470800d22978800c10285200d21164400c15728400d16326000c15123600d
 16326000c15728400d15721200c15728400d15721200c15728400d15721200c15728400d15721200c15728400d
 16326000c15123600d16326000c15728400d15721200c15728400d15721200c15728400d15721200c13914000d
 17535600c13914000d18140400c13309200d18140400c13309200d18140400c13914000d17535600c13914000d
 17535600c13914000d18140400c13309200d18140400c13309200d18140400c13914000d17535600c13914000d
 17535600c13914000d17535600c13914000d18140400c13309200d18140400c13309200d18140400c13914000d
 17535600c13914000d17535600c13914000d18140400c13309200d18140400c13309200d18140400c
 @-25200,-21600,3,2,0,7200,11,1,0,7200
America/Buenos_Aires =America/Argentina/Buenos_Aires
America/Cambridge_Bay 0,-25200,-21600,-18000
 -1577923200b697712400c114822000b838861200c15721200b15728400c15721200b15728400c15721200b
 15728400c15721200b15728400c16326000b15123600c16326000b15728400c15721200b15728400c15721200b
 15728400c15721200b15728400c15721200b15728400c16326000b15123600c16326000b15728400c15721200b
 15728400c15721200b15728400c15721200b13914000c17535600b13914000c18140400b13309200c18140400b
 13309200c18140400b13914000c17535600b13914000c17535600b13914000c18140400b13309200c18140400b
 13309200c18140400b13914000c17535600b13914000c17535600b13914000c17535600b13914000c31446000d
 18738000c30855600b13914000c17535600b13914000c17535600b13914000c18140400b13309200c18140400b
 13309200c18140400b @-25200,-21600,3,2,0,7200,11,1,0,7200
America/Campo_Grande -13108,-14400,-10800
 -1767212492b560258492c15595200b15987600c15548400b526006800c11750400b19785600c10450800b
 21085200c10537200b21085200c7772400b339987600c7167600b29034000c5094000b21171600c7772400b
 21171600c10364400b21171600c10450800b557715600c11487600b19357200c9673200b21862800c9068400b
 21776400c9068400b22381200c10278000b21776400c10278000b21171600c9673200b22381200c8463600b
 22381200c10882800b20566800c10882800b20566800c10278000b20566800c11487600b20048400c12610800b
 19357200c11487600b19357200c12697200b19357200c11487600b20566800c10882800b22381200c9068400b
 21171600c10278000b22554000c9500400b20566800c10882800b22381200c9673200b19962000c10882800b
 21171600c10278000b21171600c10882800b20566800c10882800b20566800c11487600b20566800c10278000b
 21171600c10278000b21171600c10882800b20566800c10882800b20566800c10882800b20566800c10882800b
 22381200c9068400b
America/Cancun -20824,-21600,-18000,-14400
 -1514743200b1892944800c32302800b418359600c17535600b13914000c31446000d10278000c7261200b
 13914000c18140400b13309200c18140400b16333200c12697200b16333200c17535600b13914000c17535600b
 13914000c18140400b13309200c18140400b13309200c18140400b13309200c18140400b13914000c17535600b
 13914000c17535600b13914000c18140400b13309200c18140400b13309200c18140400b13914000c17535600b
 13914000c17535600b8470800c
America/Caracas -16064,-16060,-16200,-14400 -2524505536b697766396c1668988940d1354933800c264902400d
America/Catamarca =America/Argentina/Catamarca
America/Cayenne -12560,-14400,-10800 -1846269040b1775176240c
America/Cayman -19532,-18430,-18000 -2524502068b696814898c
America/Chicago -21036,-21600,-18000
 -2717647200b1084370400c18140400b13309200c18140400b19962000c12092400b12704400c18745200b
 15728400c12697200b18752400c13302000b18147600c13302000b18147600c13302000b18147600c13302000b
 18147600c13302000b18752400c13302000b18147600c13302000b18147600c13302000b18147600c13302000b
 18147600c13302000b18752400c12697200b18752400c13302000b18147600c13302000b13309200c22374000b
 13914000c13302000b18147600c13302000b18752400c12697200b18752400c13302000b18147600c13302000b
 11581200c114822000b18147600c13302000b18147600c13302000b18147600c13302000b18147600c
 13302000b18752400c12697200b18752400c13302000b18147600c13302000b18147600c13302000b18147600c
 13302000b18147600c16326000b15728400c15721200b15728400c15721200b15728400c15721200b15728400c
 15721200b15728400c16326000b15728400c15721200b15728400c15721200b15728400c15721200b15728400c
 15721200b15728400c16326000b15123600c16326000b15728400c15721200b15728400c15721200b15728400c
 15721200b15728400c15721200b15728400c16326000b15728400c15721200b15728400c15721200b6051600c
 25398000b10285200c21164400b15728400c16326000b15123600c16326000b15728400c15721200b15728400c
 15721200b15728400c15721200b15728400c15721200b15728400c16326000b15123600c16326000b15728400c
 15721200b15728400c15721200b15728400c15721200b13914000c17535600b13914000c18140400b13309200c
 18140400b13309200c18140400b13914000c17535600b13914000c17535600b13914000c18140400b13309200c
 18140400b13309200c18140400b13914000c17535600b13914000c17535600b13914000c17535600b13914000c
 18140400b13309200c18140400b13309200c18140400b13914000c17535600b13914000c17535600b13914000c
 18140400b13309200c18140400b13309200c18140400b @-21600,-18000,3,2,0,7200,11,1,0,7200
America/Chihuahua -25460,-25200,-21600,-18000
 -1514739600b171590400c108342000b14346000c13302000b15814800c2020208400d17535600c13914000d
 17535600c31453200b13914000c18140400b13309200c18140400b16333200c12697200b16333200c17535600b
 13914000c17535600b13914000c18140400b13309200c18140400b13309200c18140400b13309200c18140400b
 13914000c17535600b13914000c17535600b13914000c18140400b13309200c18140400b13309200c18140400b
 13914000c17535600b13914000c17535600b13914000c17535600b13914000c18140400b13309200c18140400b
 13309200c18140400b13914000c17535600b13914000c17535600b13914000c18140400b13309200c
America/Ciudad_Juarez -25556,-25200,-21600,-18000
 -1514739600b171590400c108342000b14346000c13302000b15814800c2020208400d17535600c13914000d
 17535600c31453200b13914000c18140400b13309200c18140400b16333200c12697200b16333200c17535600b
 13914000c17535600b13914000c18140400b13309200c18140400b13309200c18140400b13309200c18140400b
 13914000c17535600b13914000c17535600b12099600c20559600b10890000c20559600b10890000c20559600b
 10890000c20559600b10890000c20559600b10890000c20559600b11494800c20559600b10890000c20559600b
 10890000c20559600b10890000c20559600b10890000c20559600b11494800c20559600b10890000c22626000b
 @-25200,-21600,3,2,0,7200,11,1,0,7200
America/Coral_Harbour =America/Atikokan
America/Cordoba =America/Argentina/Cordoba
America/Costa_Rica -20173,-21600,-18000
 -1545071027b1833841427c8463600b22986000c8463600b335581200c14079600b17370000c4921200b
America/Coyhaique -17296,-16965,-18000,-14400,-10800
 -2524504304b631842869c204250635b69205365d25399035b257820165d18400635c13222800d18313200c
 13222800d18313200c13222800d18313200c13222800d18399600c13222800d307580400c5274000d
 147222000c4406400d677030400e12697200d20566800e10882800d16938000e13302000d18147600e
 13302000d18752400e12697200d17542800e13906800d18752400e12697200d18752400e13302000d18147600e
 13302000d18147600e13302000d18752400e12697200d18752400e12697200d18752400e13302000d18147600e
 13302000d18147600e13302000d18147600e13302000d18752400e12697200d18752400e12697200d18752400e
 15721200d15728400e13302000d18147600e13302000d18752400e12697200d16333200e15116400d18752400e
 13302000d18147600e13302000d18147600e13302000d18147600e13302000d18752400e12697200d18752400e
 14511600d16938000e13302000d16938000e16326000d16333200e13302000d18752400e12697200d18752400e
 12697200d18752400e12697200d18752400e13302000d18147600e13302000d18147600e13302000d18752400e
 12697200d18752400e14511600d16938000e13302000d18147600e15116400d16333200e18140400d9075600e
 21769200d10890000e20559600d11494800e19954800d11494800e53218800d7866000e23583600d7866000e
 23583600d7866000e20559600d13309200e18140400d13309200e18140400d13309200e18140400d13914000e
 17535600d13309200e18745200d13309200e
America/Creston -27964,-25200,-28800 -2713882436b1033427636c52621200b
America/Cuiaba -13460,-14400,-10800
 -1767212140b560258140c15595200b15987600c15548400b526006800c11750400b19785600c10450800b
 21085200c10537200b21085200c7772400b339987600c7167600b29034000c5094000b21171600c7772400b
 21171600c10364400b21171600c10450800b557715600c11487600b19357200c9673200b21862800c9068400b
 21776400c9068400b22381200c10278000b21776400c10278000b21171600c9673200b22381200c8463600b
 22381200c10882800b20566800c10882800b20566800c10278000b20566800c11487600b20048400c12610800b
 19357200c11487600b19357200c12697200b19357200c11487600b20566800c10882800b22381200c9068400b
 54003600c9500400b20566800c10882800b22381200c9673200b19962000c10882800b21171600c10278000b
 21171600c10882800b20566800c10882800b20566800c11487600b20566800c10278000b21171600c10278000b
 21171600c10882800b20566800c10882800b20566800c10882800b20566800c10882800b22381200c9068400b
America/Curacao -16547,-16200,-14400 -1826738653b1668988453c
America/Danmarkshavn -4480,-10800,-7200,0
 -1686091520b2009936720c15105600b15724800c15724800b15724800c15724800b15724800c15724800b
 15724800c16329600b15724800c15724800b15724800c15724800b15724800c15724800b15724800c15724800b
 15724800c15724800b15724800c16329600b15724800c15724800b15724800c15724800b15724800c15724800b
 15724800c15724800b15724800c15724800b8560800d
America/Dawson -33460,-32400,-28800,-25200
 -2188996940b556940540c16930800b18147600c13813200b702961200c114822000b617497200d16329600b
 252201600c205030800d15721200c15728400d15721200c15728400d16326000c15123600d16326000c
 15728400d15721200c15728400d15721200c15728400d15721200c13914000d17535600c13914000d18140400c
 13309200d18140400c13309200d18140400c13914000d17535600c13914000d17535600c13914000d18140400c
 13309200d18140400c13309200d18140400c13914000d17535600c13914000d17535600c13914000d17535600c
 13914000d18140400c13309200d18140400c13309200d18140400c13914000d17535600c13914000d17535600c
 13914000d18140400c13309200d18140400c13309200d18140400c11494800d20559600c10890000d20559600c
 10890000d20559600c11494800d20559600c10890000d20559600c10890000d20559600c10890000d20559600c
 10890000d20559600c10890000d20559600c11494800d20559600c10890000d20559600c10890000d20559600c
 10890000d20559600c10890000d
America/Dawson_Creek -28856,-28800,-25200
 -2713881544b1081821544c16930800b734922000c114822000b49597200c13302000b18147600c13302000b
 18147600c13302000b18752400c12697200b18752400c13302000b18147600c13302000b18147600c13302000b
 18147600c13302000b18147600c13302000b18752400c13302000b18147600c13302000b18147600c13302000b
 18147600c13302000b18147600c13302000b18752400c12697200b18752400c15721200b15728400c15721200b
 15728400c15721200b15728400c16326000b15123600c16326000b15728400c15721200b15728400c15721200b
 15728400c15721200b15728400c15721200b15728400c16326000b15728400c
America/Denver -25196,-25200,-21600
 -2717643600b1084370400c18140400b13309200c18140400b13309200c18745200b12704400c4834800b
 653878800c114822000b617504400c16326000b15123600c16326000b15728400c15721200b15728400c
 15721200b15728400c15721200b15728400c15721200b15728400c16326000b15728400c15721200b15728400c
 15721200b6051600c25398000b10285200c21164400b15728400c16326000b15123600c16326000b15728400c
 15721200b15728400c15721200b15728400c15721200b15728400c15721200b15728400c16326000b15123600c
 16326000b15728400c15721200b15728400c15721200b15728400c15721200b13914000c17535600b13914000c
 18140400b13309200c18140400b13309200c18140400b13914000c17535600b13914000c17535600b13914000c
 18140400b13309200c18140400b13309200c18140400b13914000c17535600b13914000c17535600b13914000c
 17535600b13914000c18140400b13309200c18140400b13309200c18140400b13914000c17535600b13914000c
 17535600b13914000c18140400b13309200c18140400b13309200c18140400b
 @-25200,-21600,3,2,0,7200,11,1,0,7200
America/Detroit -19931,-21600,-18000,-14400
 -2051202469b327119269c843865200d114822000c81046800d13302000c590540460d11840340c15728400d
 15721200c142131600d15721200c6051600d25398000c15728400d15721200c15728400d16326000c15123600d
 16326000c15728400d15721200c15728400d15721200c15728400d15721200c15728400d15721200c15728400d
 16326000c15123600d16326000c15728400d15721200c15728400d15721200c15728400d15721200c13914000d
 17535600c13914000d18140400c13309200d18140400c13309200d18140400c13914000d17535600c13914000d
 17535600c13914000d18140400c13309200d18140400c13309200d18140400c13914000d17535600c13914000d
 17535600c13914000d17535600c13914000d18140400c13309200d18140400c13309200d18140400c13914000d
 17535600c13914000d17535600c13914000d18140400c13309200d18140400c13309200d18140400c
 @-18000,-14400,3,2,0,7200,11,1,0,7200
America/Dominica -14736,-14400 -1846266804b
America/Edmonton -27232,-25200,-21600
 -1998663968b366600368c16930800b14518800c3798000b28861200c16326000b15123600c13302000b
 18752400c12697200b18752400c13302000b579488400c114822000b49597200c13302000b775962000c
 15721200b15728400c15721200b15728400c15721200b15728400c15721200b15728400c16326000b15123600c
 16326000b15728400c15721200b15728400c15721200b15728400c15721200b15728400c15721200b15728400c
 16326000b15123600c16326000b15728400c15721200b15728400c15721200b15728400c15721200b13914000c
 17535600b13914000c18140400b13309200c18140400b13309200c18140400b13914000c17535600b13914000c
 17535600b13914000c18140400b13309200c18140400b13309200c18140400b13914000c17535600b13914000c
 17535600b13914000c17535600b13914000c18140400b13309200c18140400b13309200c18140400b13914000c
 17535600b13914000c17535600b13914000c18140400b13309200c18140400b13309200c18140400b
 @-25200,-21600,3,2,0,7200,11,1,0,7200
America/Eirunepe -16768,-18000,-14400
 -1767208832b560258432c15595200b15987600c15548400b526006800c11750400b19785600c10450800b
 21085200c10537200b21085200c7772400b339987600c7167600b29034000c5094000b21171600c7772400b
 21171600c10364400b21171600c10450800b557715600c11487600b19357200c9673200b21862800c9068400b
 179629200c10882800b452566800c169772400b
America/El_Salvador -21408,-21600,-18000 -1546279392b2093299392c12697200b18752400c12697200b
America/Ensenada =America/Tijuana
America/Fort_Nelson -29447,-28800,-25200
 -2713880953b1081820953c16930800b734922000c114822000b49597200c13302000b18147600c13302000b
 18147600c13302000b18752400c12697200b18752400c13302000b18147600c13302000b18147600c13302000b
 18147600c13302000b18147600c13302000b18752400c13302000b18147600c13302000b18147600c13302000b
 18147600c13302000b18147600c13302000b18752400c12697200b18752400c15721200b15728400c15721200b
 15728400c15721200b15728400c16326000b15123600c16326000b15728400c15721200b15728400c15721200b
 15728400c15721200b15728400c15721200b15728400c16326000b15728400c15721200b15728400c15721200b
 15728400c15721200b15728400c15721200b15728400c16326000b15123600c16326000b15728400c15721200b
 15728400c15721200b15728400c15721200b15728400c15721200b15728400c16326000b15123600c16326000b
 15728400c15721200b15728400c15721200b15728400c15721200b13914000c17535600b13914000c18140400b
 13309200c18140400b13309200c18140400b13914000c17535600b13914000c17535600b13914000c18140400b
 13309200c18140400b13309200c18140400b13914000c17535600b13914000c17535600b13914000c17535600b
 13914000c18140400b13309200c18140400b13309200c18140400b13914000c17535600b13914000c17535600b
 13914000c18140400b13309200c18140400b13309200c18140400b11494800c20559600b10890000c20559600b
 10890000c20559600b11494800c20559600b10890000c20559600b10890000c20559600b10890000c20559600b
 10890000c20559600b10890000c
America/Fort_Wayne =America/Indiana/Indianapolis
America/Fortaleza -9240,-10800,-7200
 -1767216360b560258760c15595200b15987600c15548400b526006800c11750400b19785600c10450800b
 21085200c10537200b21085200c7772400b339987600c7167600b29034000c5094000b21171600c7772400b
 21171600c10364400b21171600c10450800b557715600c11487600b19357200c9673200b21862800c9068400b
 21776400c9068400b22381200c10278000b304218000c12697200b19357200c1206000b30848400c10882800b
America/Glace_Bay -14388,-14400,-10800
 -2131646412b499572012c16930800b734922000c114822000b238899600c13302000b586659600c15721200b
 15728400c15721200b15728400c15721200b15728400c15721200b15728400c16326000b15123600c16326000b
 15728400c15721200b15728400c15721200b15728400c15721200b15728400c15721200b15728400c16326000b
 15123600c16326000b15728400c15721200b15728400c15721200b15728400c15721200b13914000c17535600b
 13914000c18140400b13309200c18140400b13309200c18140400b13914000c17535600b13914000c17535600b
 13914000c18140400b13309200c18140400b13309200c18140400b13914000c17535600b13914000c17535600b
 13914000c17535600b13914000c18140400b13309200c18140400b13309200c18140400b13914000c17535600b
 13914000c17535600b13914000c18140400b13309200c18140400b13309200c18140400b
 @-14400,-10800,3,2,0,7200,11,1,0,7200
America/Godthab =America/Nuuk
America/Goose_Bay -14500,-12652,-9052,-12600,-9000,-14400,-10800,-7200
 -2713895900b1081819752c16930800b518223600d35251148e12697200d18752400e12697200d18752400e
 12697200d19357200e12092400d19357200e12697200d18752400e12697200d18752400e106966800d
 19357200e12697200d18752400e12697200d18752400e12697200d18752400e12697200d19357200e12697200d
 17542800e13302000d18147600e13302000d18147600e13302000d18147600e13302000d18147600e13302000d
 18752400e13302000d18147600e13302000d18147600e13302000d18147600e13302000d18147600e16326000d
 15728400e15721200d15728400e15721200d15728400e15721200d15728400e15721200d15728400e16326000d
 11667600f3457800g16326000f15728400g15721200f15728400g15721200f15728400g15721200f15728400g
 15721200f15728400g16326000f15728400g15721200f15728400g15721200f15728400g15721200f15728400g
 15721200f15728400g16326000f15123600g16326000f15728400g15721200f15728400g15721200f15728400g
 15721200f15728400g15721200f15728400g16326000f15123600g16326000f15728400g15721200f15728400g
 15721200f15728400g15721200f13906860g17535600f13914000h18136800f13312800g18140400f13309200g
 18140400f13914000g17535600f13914000g17535600f13914000g18140400f13309200g18140400f13309200g
 18140400f13914000g17535600f13914000g17535600f13914000g17535600f13914000g18140400f13309200g
 18140400f13309200g18140400f13914000g17535600f13914000g17535600f13914000g18140400f13309200g
 18140400f13309200g18140400f11494800g20559600f10890000g20559600f10890000g20559600f11494800g
 20559600f10890000g @-14400,-10800,3,2,0,7200,11,1,0,7200
America/Grand_Turk -17072,-18430,-18000,-14400
 -2524504528b696817358c2121904370d15721200c15728400d15721200c15728400d15721200c15728400d
 16326000c15123600d16326000c15728400d15721200c15728400d15721200c15728400d15721200c13914000d
 17535600c13914000d18140400c13309200d18140400c13309200d18140400c13914000d17535600c13914000d
 17535600c13914000d18140400c13309200d18140400c13309200d18140400c13914000d17535600c13914000d
 17535600c13914000d17535600c13914000d18140400c13309200d18140400c13309200d18140400c13914000d
 17535600c13914000d17535600c13914000d18140400c13309200d18140400c13309200d18140400c11494800d
 20559600c10890000d20559600c10890000d20559600c11494800d20559600c10890000d20559600c10890000d
 20559600c10890000d20559600c10890000d20559600c10890000d115513200c
 @-18000,-14400,3,2,0,7200,11,1,0,7200
America/Grenada -14820,-14400 -1846266780b
America/Guadeloupe -14768,-14400 -1848254032b
America/Guatemala -21724,-21600,-18000
 -1617040676b1740095876c7858800b291430800c10710000b236653200c14511600b462157200c13302000b
America/Guayaquil -19160,-18840,-18000,-14400 -2524502440b1293753280c1953675960d5958000c
America/Guyana -13959,-14400,-13500,-10800 -1843589241b113011641c1906674300d525744900b
America/Halifax -15264,-14400,-10800
 -2131645536b435368736c15807600b48394800c16930800b48380400c9673200b21603600c10537200b
 20480400c11055600b20998800c10450800b20998800c11574000b19875600c12783600b19875600c10364400b
 19875600c12783600b19875600c10278000b21171600c9846000b21603600c10969200b20480400c12178800b
 18666000c12783600b18666000c13388400b19875600c10278000b22381200c10364400b21171600c9068400b
 19875600c12783600b18666000c12783600b21085200c10364400b19270800c12783600b18666000c12783600b
 11502000c114822000b18147600c13302000b18147600c13302000b18147600c13302000b18147600c
 13302000b50202000c13302000b18147600c13302000b18147600c13302000b18147600c13302000b50202000c
 13302000b18147600c13302000b18147600c13302000b18147600c13302000b81651600c15721200b15728400c
 15721200b15728400c15721200b15728400c16326000b15123600c16326000b15728400c15721200b15728400c
 15721200b15728400c15721200b15728400c15721200b15728400c16326000b15728400c15721200b15728400c
 15721200b15728400c15721200b15728400c15721200b15728400c16326000b15123600c16326000b15728400c
 15721200b15728400c15721200b15728400c15721200b15728400c15721200b15728400c16326000b15123600c
 16326000b15728400c15721200b15728400c15721200b15728400c15721200b13914000c17535600b13914000c
 18140400b13309200c18140400b13309200c18140400b13914000c17535600b13914000c17535600b13914000c
 18140400b13309200c18140400b13309200c18140400b13914000c17535600b13914000c17535600b13914000c
 17535600b13914000c18140400b13309200c18140400b13309200c18140400b13914000c17535600b13914000c
 17535600b13914000c18140400b13309200c18140400b13309200c18140400b
 @-14400,-10800,3,2,0,7200,11,1,0,7200
America/Havana -19768,-19776,-18000,-14400
 -2524501832b1121688008c91279824d10537200c367462800d7858800c23590800d8463600c23590800d
 7858800c86490000d7858800c23590800d7858800c591670800d10450800c20826000d10882800c16246800d
 13388400c18752400d12697200c19962000d15721200c15728400d15721200c15728400d16326000c15728400d
 13906800c17542800d13993200c17456400d14079600c17370000d15721200c15728400d16326000c15123600d
 16326000c16333200d13302000c13914000d18140400c13309200d18140400c18147600d13302000c18147600d
 13302000c18147600d13302000c18147600d13906800c17542800d13906800c13309200d18140400c13309200d
 18140400c13914000d17535600c13914000d17535600c15123600d16930800c15123600d16329600c15120000d
 16329600c15120000d16329600c15120000d16329600c15120000d16329600c15724800d15724800c15724800d
 16329600c14515200d18144000c13305600d18748800c13305600d18144000c13305600d18144000c13910400d
 17539200c13910400d17539200c13305600d81648000c11491200d19958400c12096000d19353600c11491200d
 19958400c12096000d19958400c12096000d20563200c12096000d @-18000,-14400,3,2,0,0,11,1,0,3600
America/Hermosillo -26632,-25200,-21600
 -1514739600b171590400c108342000b14346000c13302000b15814800c317516400b1702695600c17535600b
 13914000c17535600b13914000c17535600b
America/Indiana/Indianapolis -20678,-21600,-18000,-14400
 -2717647200b1084370400c18140400b13309200c18140400b683427600c8463600b11581200c114822000b
 18147600c13302000b18147600c13302000b18147600c13302000b18147600c13302000b18752400c12697200b
 18752400c13302000b18147600c13302000b18147600c13302000b18147600c13302000b18147600c76806000b
 18147600c347151600d15721200c15728400d15721200c1118278800d18140400c
 @-18000,-14400,3,2,0,7200,11,1,0,7200
America/Indiana/Knox -20790,-21600,-18000
 -2717647200b1084370400c18140400b13309200c18140400b703472400c114822000b49597200c13302000b
 18147600c13302000b18147600c13302000b18752400c12697200b18752400c13302000b18147600c13302000b
 18147600c13302000b18147600c13302000b18147600c16326000b15728400c15721200b15728400c13302000b
 18147600c13302000b18147600c15721200b15728400c16326000b15728400c15721200b15728400c47170800b
 110682000c15721200b15728400c15721200b15728400c15721200b15728400c15721200b15728400c
 16326000b15728400c15721200b15728400c15721200b6051600c25398000b10285200c21164400b15728400c
 16326000b15123600c16326000b15728400c15721200b15728400c15721200b15728400c15721200b15728400c
 15721200b15728400c16326000b15123600c16326000b15728400c15721200b15728400c15721200b15728400c
 15721200b13914000c17535600b13914000c18140400b13309200c18140400b13309200c18140400b13914000c
 491094000b @-21600,-18000,3,2,0,7200,11,1,0,7200
America/Indiana/Marengo -20723,-21600,-18000,-14400
 -2717647200b1084370400c18140400b13309200c18140400b703472400c114822000b176000400c13302000b
 81046800c13302000b18147600c13302000b18752400c13302000b18147600c13302000b18147600c13302000b
 18147600c13302000b18147600c13302000b18752400c252198000d15721200c15728400d15721200c
 15728400d16326000c15728400d15721200c15728400d15721200c41734800d21164400c960426000d 18140400c
 @-18000,-14400,3,2,0,7200,11,1,0,7200
America/Indiana/Petersburg -20947,-21600,-18000
 -2717647200b1084370400c18140400b13309200c18140400b703472400c114822000b302396400c12704400b
 18752400c13302000b18147600c13302000b18147600c13302000b18147600c13302000b18147600c13302000b
 18752400c15721200b15728400c15721200b15728400c15721200b15728400c15721200b15728400c47775600b
 15728400c15721200b15728400c15721200b15728400c15721200b15728400c15721200b15728400c16326000b
 15728400c15721200b15728400c15721200b6051600c25398000b10285200c21164400b15728400c16326000b
 15123600c931388400b11494800c @-18000,-14400,3,2,0,7200,11,1,0,7200
America/Indiana/Tell_City -20823,-21600,-18000,-14400
 -2717647200b1084370400c18140400b13309200c18140400b703472400c114822000b302396400c12704400b
 18752400c13302000b18147600c13302000b18147600c13302000b18147600c13302000b18147600c13302000b
 18752400c15721200b15728400c15721200b15728400c15721200b15728400c110674800b15728400c
 15721200b15728400d15717600c15728400d15721200c1136422800b @-21600,-18000,3,2,0,7200,11,1,0,7200
America/Indiana/Vevay -20416,-21600,-18000,-14400
 -2717647200b1084370400c18140400b13309200c18140400b703472400c114822000b270349200c473554800d
 15721200c15728400d15721200c15728400d16326000c15728400d15721200c1054774800d18140400c
 @-18000,-14400,3,2,0,7200,11,1,0,7200
America/Indiana/Vincennes -21007,-21600,-18000,-14400
 -2717647200b1084370400c18140400b13309200c18140400b703472400c114822000b18147600c13302000b
 207450000c13302000b18147600c13302000b18745200c12704400b18752400c13302000b18147600c
 13302000b18147600c13302000b18147600c13302000b18147600c16326000b15728400c12697200b18752400c
 15721200b15728400c15721200b15728400c157849200d15721200c15728400d15721200c1136422800b 11494800c
 @-18000,-14400,3,2,0,7200,11,1,0,7200
America/Indiana/Winamac -20785,-21600,-18000,-14400
 -2717647200b1084370400c18140400b13309200c18140400b703472400c114822000b18147600c13302000b
 18147600c13302000b18147600c13302000b18147600c13302000b18752400c12697200b18752400c13302000b
 18147600c13302000b18147600c13302000b18147600c13302000b18147600c16326000b15728400c15721200b
 15728400c13302000b18147600c13302000b18147600c13302000b18147600c13302000b18752400c
 252198000d15721200c15728400d15721200c1136422800b11494800d @-18000,-14400,3,2,0,7200,11,1,0,7200
America/Indianapolis =America/Indiana/Indianapolis
America/Inuvik 0,-28800,-25200,-21600
 -536457600b609933600c15721200b15728400c15721200b15728400c15721200b15728400c15721200b
 15728400c16326000b15123600c16326000b15728400c15721200b15728400d15717600c15728400d15721200c
 15728400d15721200c15728400d16326000c15123600d16326000c15728400d15721200c15728400d15721200c
 15728400d15721200c13914000d17535600c13914000d18140400c13309200d18140400c13309200d18140400c
 13914000d17535600c13914000d17535600c13914000d18140400c13309200d18140400c13309200d18140400c
 13914000d17535600c13914000d17535600c13914000d17535600c13914000d18140400c13309200d18140400c
 13309200d18140400c13914000d17535600c13914000d17535600c13914000d18140400c13309200d18140400c
 13309200d18140400c @-25200,-21600,3,2,0,7200,11,1,0,7200
America/Iqaluit 0,-14400,-18000,-21600
 -865296000b99900000c838861200b15721200c15728400b15721200c15728400b15721200c15728400b
 15721200c15728400b16326000c15123600b16326000c15728400b15721200c15728400b15721200c15728400b
 15721200c15728400b15721200c15728400b16326000c15123600b16326000c15728400b15721200c15728400b
 15721200c15728400b15721200c13914000b17535600c13914000b18140400c13309200b18140400c13309200b
 18140400c13914000b17535600c13914000b17535600c13914000b18140400c13309200b18140400c13309200b
 18140400c13914000b17535600c13914000b17535600c13914000b17535600c13914000b18140400d13312800c
 31446000b18140400c13914000b17535600c13914000b17535600c13914000b18140400c13309200b18140400c
 13309200b18140400c @-18000,-14400,3,2,0,7200,11,1,0,7200
America/Jamaica -18430,-18000,-14400
 -1827687170b1954374770c25398000b10285200c21164400b15728400c16326000b15123600c16326000b
 15728400c15721200b15728400c15721200b15728400c15721200b15728400c15721200b15728400c16326000b
 15123600c16326000b
America/Jujuy =America/Argentina/Jujuy
America/Juneau 54139,-32261,-28800,-25200,-32400
 -3225223727b1036268788c1308747739d114822000c743907600d15721200c15728400d15721200c15728400d
 16326000c15728400d15721200c15728400d15721200c6051600d25398000c10285200d21164400c15728400d
 16326000c15123600d16326000c15728400d15721200c15728400d15721200c47178000d15721200c15728400d
 16326000c15123600d16326000e15732000c15721200e15728400c15721200e15728400c15721200e13914000c
 17535600e13914000c18140400e13309200c18140400e13309200c18140400e13914000c17535600e13914000c
 17535600e13914000c18140400e13309200c18140400e13309200c18140400e13914000c17535600e13914000c
 17535600e13914000c17535600e13914000c18140400e13309200c18140400e13309200c18140400e13914000c
 17535600e13914000c17535600e13914000c18140400e13309200c18140400e13309200c18140400e
 @-32400,-28800,3,2,0,7200,11,1,0,7200
America/Kentucky/Louisville -20582,-21600,-18000,-14400
 -2717647200b1084370400c18140400b13309200c18140400b47782800c10623600b620182800c13302000b
 11581200c114822000b18140460c3027540b123382800c12697200b18752400c13302000b18147600c
 13302000b18147600c13302000b18147600c13302000b18147600c13302000b18752400c15721200b15728400c
 15721200b15728400c15721200b15728400c15721200b15728400c16326000b15728400c220748400d
 15721200c15728400d15721200c15728400d15721200c15728400d16326000c15728400d15721200c15728400d
 15721200c41734800d21164400c15728400d16326000c15123600d16326000c15728400d15721200c15728400d
 15721200c15728400d15721200c15728400d15721200c15728400d16326000c15123600d16326000c15728400d
 15721200c15728400d15721200c15728400d15721200c13914000d17535600c13914000d18140400c13309200d
 18140400c13309200d18140400c13914000d17535600c13914000d17535600c13914000d18140400c13309200d
 18140400c13309200d18140400c13914000d17535600c13914000d17535600c13914000d17535600c13914000d
 18140400c13309200d18140400c13309200d18140400c13914000d17535600c13914000d17535600c13914000d
 18140400c13309200d18140400c13309200d18140400c @-18000,-14400,3,2,0,7200,11,1,0,7200
America/Kentucky/Monticello -20364,-21600,-18000,-14400
 -2717647200b1084370400c18140400b13309200c18140400b703472400c114822000b712458000c15721200b
 15728400c15721200b15728400c15721200b15728400c16326000b15728400c15721200b15728400c15721200b
 6051600c25398000b10285200c21164400b15728400c16326000b15123600c16326000b15728400c15721200b
 15728400c15721200b15728400c15721200b15728400c15721200b15728400c16326000b15123600c16326000b
 15728400c15721200b15728400c15721200b15728400c15721200b13914000c17535600b13914000c18140400b
 13309200c18140400b13309200c18140400b13914000c17535600b13914000c17535600b13914000c18140400b
 13309200c18140400b13309200c18140400b13914000c17535600b13914000c17535600b13914000c17535600b
 13914000c18140400b13309200c31446000d18140400c13914000d17535600c13914000d17535600c13914000d
 18140400c13309200d18140400c13309200d18140400c @-18000,-14400,3,2,0,7200,11,1,0,7200
America/Knox_IN =America/Indiana/Knox
America/Kralendijk =America/Curacao
America/La_Paz -16356,-12756,-14400 -1205954844b13647600c
America/Lima -18492,-18516,-18000,-14400
 -2524503108b585964824c928713084d7772400c15296400d15721200c15728400d15721200c1444525200d
 7772400c23763600d7772400c86922000d7772400c118458000d7772400c
America/Los_Angeles -28378,-28800,-25200
 -2717640000b1084370400c18140400b13309200c18140400b703472400c114822000b77418060c25311540b
 41817600c12700800b18748800c13305600b18144000c13305600b18144000c13305600b18144000c13305600b
 18144000c13305600b18748800c13305600b18144000c13305600b18144000c13305600b18144000c13305600b
 18144000c13305600b18748800c12700800b18748800c15724800b15724800c15724800b15724800c15724800b
 15724800c16329600b15120000c16329600b15728400c15721200b15728400c15721200b15728400c15721200b
 15728400c15721200b15728400c16326000b15728400c15721200b15728400c15721200b6051600c25398000b
 10285200c21164400b15728400c16326000b15123600c16326000b15728400c15721200b15728400c15721200b
 15728400c15721200b15728400c15721200b15728400c16326000b15123600c16326000b15728400c15721200b
 15728400c15721200b15728400c15721200b13914000c17535600b13914000c18140400b13309200c18140400b
 13309200c18140400b13914000c17535600b13914000c17535600b13914000c18140400b13309200c18140400b
 13309200c18140400b13914000c17535600b13914000c17535600b13914000c17535600b13914000c18140400b
 13309200c18140400b13309200c18140400b13914000c17535600b13914000c17535600b13914000c18140400b
 13309200c18140400b13309200c18140400b @-28800,-25200,3,2,0,7200,11,1,0,7200
America/Louisville =America/Kentucky/Louisville
America/Lower_Princes =America/Curacao
America/Maceio -8572,-10800,-7200
 -1767217028b560259428c15595200b15987600c15548400b526006800c11750400b19785600c10450800b
 21085200c10537200b21085200c7772400b339987600c7167600b29034000c5094000b21171600c7772400b
 21171600c10364400b21171600c10450800b557715600c11487600b19357200c9673200b21862800c9068400b
 21776400c9068400b22381200c10278000b179024400c10278000b114915600c12697200b19357200c1206000b
 30848400c10882800b
America/Managua -20708,-20712,-21600,-18000
 -2524500892b1403395204c1226189688d56674800c128826000d8550000c22899600d8550000c363675600d
 23050800c8557200d126226800c261018000d15116400c18154800d13298400c
America/Manaus -14404,-14400,-10800
 -1767211196b560257196c15595200b15987600c15548400b526006800c11750400b19785600c10450800b
 21085200c10537200b21085200c7772400b339987600c7167600b29034000c5094000b21171600c7772400b
 21171600c10364400b21171600c10450800b557715600c11487600b19357200c9673200b21862800c9068400b
 179629200c10882800b
America/Marigot =America/Port_of_Spain
America/Martinique -14660,-14400,-10800 -1851537340b2175378940c15116400b
America/Matamoros -23400,-21600,-18000
 -1514743200b2090800800c18140400b234666000c17535600b13914000c17535600b13914000c17535600b
 13914000c18140400b13309200c18140400b16333200c12697200b16333200c17535600b13914000c17535600b
 13914000c18140400b13309200c18140400b13309200c18140400b13309200c18140400b13914000c17535600b
 13914000c17535600b @-21600,-18000,3,2,0,7200,11,1,0,7200
America/Mazatlan -25540,-25200,-21600
 -1514739600b171590400c108342000b14346000c13302000b15814800c317516400b1702695600c17535600b
 13914000c17535600b13914000c17535600b13914000c18140400b13309200c18140400b16333200c12697200b
 16333200c17535600b13914000c17535600b13914000c18140400b13309200c18140400b13309200c18140400b
 13309200c18140400b13914000c17535600b13914000c17535600b13914000c18140400b13309200c18140400b
 13309200c18140400b13914000c17535600b13914000c17535600b13914000c17535600b13914000c18140400b
 13309200c18140400b13309200c18140400b13914000c17535600b13914000c17535600b13914000c18140400b
 13309200c18140400b
America/Mendoza =America/Argentina/Mendoza
America/Menominee -21027,-21600,-18000
 -2659759773b1026482973c18140400b13309200c18140400b703472400c114822000b18147600c13302000b
 617504400c16326000b78627600c142124400b6051600c25398000b10285200c21164400b15728400c
 16326000b15123600c16326000b15728400c15721200b15728400c15721200b15728400c15721200b15728400c
 15721200b15728400c16326000b15123600c16326000b15728400c15721200b15728400c15721200b15728400c
 15721200b13914000c17535600b13914000c18140400b13309200c18140400b13309200c18140400b13914000c
 17535600b13914000c17535600b13914000c18140400b13309200c18140400b13309200c18140400b13914000c
 17535600b13914000c17535600b13914000c17535600b13914000c18140400b13309200c18140400b13309200c
 18140400b13914000c17535600b13914000c17535600b13914000c18140400b13309200c18140400b13309200c
 18140400b @-21600,-18000,3,2,0,7200,11,1,0,7200
America/Merida -21508,-21600,-18000
 -1514743200b1892944800c26866800b423795600c17535600b13914000c17535600b13914000c17535600b
 13914000c18140400b13309200c18140400b16333200c12697200b16333200c17535600b13914000c17535600b
 13914000c18140400b13309200c18140400b13309200c18140400b13309200c18140400b13914000c17535600b
 13914000c17535600b13914000c18140400b13309200c18140400b13309200c18140400b13914000c17535600b
 13914000c17535600b13914000c17535600b13914000c18140400b13309200c18140400b13309200c18140400b
 13914000c17535600b13914000c17535600b13914000c18140400b13309200c18140400b
America/Metlakatla 54822,-31578,-28800,-25200,-32400
 -3225223727b1036268105c1308748422d114822000c743907600d15721200c15728400d15721200c15728400d
 16326000c15728400d15721200c15728400d15721200c6051600d25398000c10285200d21164400c15728400d
 16326000c15123600d16326000c15728400d15721200c15728400d15721200c15728400d15721200c15728400d
 15721200c15728400d16326000c15123600d16326000c1010019600e11494800c20559600e10890000c
 20559600e10890000c27212400e @-32400,-28800,3,2,0,7200,11,1,0,7200
America/Mexico_City -23796,-25200,-21600,-18000
 -1514739600b171590400c108342000b14346000c13302000b15814800c216082800d12092400c46054800d
 9759600c85453200d11833200c182566800d14511600c1441854000d17535600c13914000d17535600c
 13914000d17535600c13914000d18140400c13309200d18140400c16333200d12697200c16333200d17535600c
 13914000d17535600c13914000d18140400c13309200d18140400c13309200d18140400c13309200d18140400c
 13914000d17535600c13914000d17535600c13914000d18140400c13309200d18140400c13309200d18140400c
 13914000d17535600c13914000d17535600c13914000d17535600c13914000d18140400c13309200d18140400c
 13309200d18140400c13914000d17535600c13914000d17535600c13914000d18140400c13309200d18140400c
America/Miquelon -13480,-14400,-10800,-7200
 -1847650520b2173652120c218595600d17535600c13914000d18140400c13309200d18140400c13309200d
 18140400c13914000d17535600c13914000d17535600c13914000d18140400c13309200d18140400c13309200d
 18140400c13914000d17535600c13914000d17535600c13914000d17535600c13914000d18140400c13309200d
 18140400c13309200d18140400c13914000d17535600c13914000d17535600c13914000d18140400c13309200d
 18140400c13309200d18140400c @-10800,-7200,3,2,0,7200,11,1,0,7200
America/Moncton -15548,-18000,-14400,-10800
 -2715882052b584239252c499568400d16930800c461462400d7858800c23590800d7858800c23590800d
 7858800c23590800d7858800c23590800d7858800c23590800d7858800c22899600d10278000c20653200d
 10796400c19443600d12610800c11671200d114822000c18147600d13302000c18147600d13302000c
 18147600d13302000c18147600d13302000c18752400d12697200c18752400d13302000c18147600d13302000c
 18147600d13302000c18147600d13302000c18147600d13302000c18752400d13302000c18147600d15721200c
 15728400d15721200c15728400d15721200c15728400d16326000c15728400d15721200c15728400d15721200c
 15728400d15721200c15728400d15721200c15728400d16326000c15123600d16326000c15728400d15721200c
 15728400d15721200c15728400d15721200c15728400d15721200c15728400d16326000c15728400d15721200c
 47178000d15721200c15728400d15721200c15728400d16326000c15123600d16326000c15728400d15721200c
 15728400d15721200c15728400d15721200c15728400d15721200c15728400d16326000c15123600d16326000c
 15728400d15721200c15728400d15721200c15728400d15721200c13914000d17535600c13914000d18140400c
 13309200d18140400c13309200d18140400c13914000d17535600c13914000d17535600c13906860d18140400c
 13309200d18140400c13309200d18140400c13914000d17535600c13914000d17535600c13914000d17535600c
 13914000d18140400c13309200d18140400c13309200d18140400c13914000d17535600c13914000d17535600c
 13914000d18140400c13309200d18140400c13309200d18140400c @-14400,-10800,3,2,0,7200,11,1,0,7200
America/Monterrey -24076,-25200,-21600,-18000
 -1514743200b171594000c108342000b14346000c13302000b15814800c1767402000d18140400c234666000d
 17535600c13914000d17535600c13914000d17535600c13914000d18140400c13309200d18140400c16333200d
 12697200c16333200d17535600c13914000d17535600c13914000d18140400c13309200d18140400c13309200d
 18140400c13309200d18140400c13914000d17535600c13914000d17535600c13914000d18140400c13309200d
 18140400c13309200d18140400c13914000d17535600c13914000d17535600c13914000d17535600c13914000d
 18140400c13309200d18140400c13309200d18140400c13914000d17535600c13914000d17535600c13914000d
 18140400c13309200d18140400c
America/Montevideo -13491,-14400,-10800,-12600,-9000,-7200,-5400
 -1567455309b107828109c15807600d15813000c15723000d15813000c15723000d239157000c13303800d
 18145800c13303800d18145800c13303800d18145800c13303800d18750600c12699000d18750600c12699000d
 16331400c15723000d18145800c13303800d10715400c43198200e7774200c511057800e15118200c5445000f
 4230000c160275600f15116400c84157200e16241400c44065800f4316400c58669200f7254000c47178000g
 4833000e15123600c9678600f8463600c54435600f6649200c23590800f7858800c24800400f6649200c
 4842000f27817200c244429200f6562800c24800400f7254000c20566800f10278000c20566800f11487600c
 20566800f10882800c19962000f11487600c364698000f16333200c16938000f13302000c17542800f
 13906800c18147600f13302000c18147600f13302000c18147600f13906800c17542800f13906800c17542800f
 13906800c18147600f13302000c18147600f13302000c18147600f13302000c
America/Montreal =America/Toronto
America/Montserrat -14932,-14400 -1846266608b
America/Nassau -18570,-18000,-14400
 -1825095030b951954630c84236400b2682000c22374000b584506800c15721200b15728400c16326000b
 15123600c16326000b15728400c15721200b15728400c15721200b15728400c15721200b15728400c15721200b
 15728400c16326000b15728400c15721200b15728400c15721200b15728400c15721200b15728400c15721200b
 15728400c16326000b15123600c16326000b15728400c15721200b15728400c15721200b15728400c15721200b
 15728400c15721200b15728400c16326000b15123600c16326000b15728400c15721200b15728400c15721200b
 15728400c15721200b13914000c17535600b13914000c18140400b13309200c18140400b13309200c18140400b
 13914000c17535600b13914000c17535600b13914000c18140400b13309200c18140400b13309200c18140400b
 13914000c17535600b13914000c17535600b13914000c17535600b13914000c18140400b13309200c18140400b
 13309200c18140400b13914000c17535600b13914000c17535600b13914000c18140400b13309200c18140400b
 13309200c18140400b @-18000,-14400,3,2,0,7200,11,1,0,7200
America/New_York -17762,-18000,-14400
 -2717650800b1084370400c18140400b13309200c18140400b13309200c18745200b15123600c13302000b
 18752400c12697200b18752400c13302000b18147600c13302000b18147600c13302000b18147600c13302000b
 18147600c13302000b18752400c13302000b18147600c13302000b18147600c13302000b18147600c13302000b
 18147600c13302000b18752400c12697200b18752400c13302000b18147600c13302000b18147600c13302000b
 18147600c13302000b18147600c13302000b18752400c12697200b18752400c13302000b18147600c13302000b
 11581200c114822000b18147600c13302000b18147600c13302000b18147600c13302000b18147600c
 13302000b18752400c12697200b18752400c13302000b18147600c13302000b18147600c13302000b18147600c
 13302000b18147600c16326000b15728400c15721200b15728400c15721200b15728400c15721200b15728400c
 15721200b15728400c16326000b15728400c15721200b15728400c15721200b15728400c15721200b15728400c
 15721200b15728400c16326000b15123600c16326000b15728400c15721200b15728400c15721200b15728400c
 15721200b15728400c15721200b15728400c16326000b15728400c15721200b15728400c15721200b6051600c
 25398000b10285200c21164400b15728400c16326000b15123600c16326000b15728400c15721200b15728400c
 15721200b15728400c15721200b15728400c15721200b15728400c16326000b15123600c16326000b15728400c
 15721200b15728400c15721200b15728400c15721200b13914000c17535600b13914000c18140400b13309200c
 18140400b13309200c18140400b13914000c17535600b13914000c17535600b13914000c18140400b13309200c
 18140400b13309200c18140400b13914000c17535600b13914000c17535600b13914000c17535600b13914000c
 18140400b13309200c18140400b13309200c18140400b13914000c17535600b13914000c17535600b13914000c
 18140400b13309200c18140400b13309200c18140400b @-18000,-14400,3,2,0,7200,11,1,0,7200
America/Nipigon =America/Toronto
America/Nome 46702,-39698,-39600,-36000,-32400,-28800
 -3225223727b1036276225c1308751102d114822000c743907600d15721200c15728400d15721200c15728400d
 16326000c15728400d15721200c15728400d15721200c6051600d25398000c10285200d21164400c15728400d
 16326000c15123600d16326000c15728400d15721200c15728400d15721200c15728400d15721200c15728400d
 15721200c15728400d16326000c15123600d16326000e15721200f15721200e15728400f15721200e15728400f
 15721200e13914000f17535600e13914000f18140400e13309200f18140400e13309200f18140400e13914000f
 17535600e13914000f17535600e13914000f18140400e13309200f18140400e13309200f18140400e13914000f
 17535600e13914000f17535600e13914000f17535600e13914000f18140400e13309200f18140400e13309200f
 18140400e13914000f17535600e13914000f17535600e13914000f18140400e13309200f18140400e13309200f
 18140400e @-32400,-28800,3,2,0,7200,11,1,0,7200
America/Noronha -7780,-7200,-3600
 -1767217820b560256620c15595200b15987600c15548400b526006800c11750400b19785600c10450800b
 21085200c10537200b21085200c7772400b339987600c7167600b29034000c5094000b21171600c7772400b
 21171600c10364400b21171600c10450800b557715600c11487600b19357200c9673200b21862800c9068400b
 21776400c9068400b22381200c10278000b304218000c12697200b19357200c601200b31453200c10882800b
America/North_Dakota/Beulah -24427,-25200,-21600
 -2717643600b1084370400c18140400b13309200c18140400b703472400c114822000b681008400c15721200b
 15728400c15721200b15728400c15721200b15728400c15721200b15728400c16326000b15728400c15721200b
 15728400c15721200b6051600c25398000b10285200c21164400b15728400c16326000b15123600c16326000b
 15728400c15721200b15728400c15721200b15728400c15721200b15728400c15721200b15728400c16326000b
 15123600c16326000b15728400c15721200b15728400c15721200b15728400c15721200b13914000c17535600b
 13914000c18140400b13309200c18140400b13309200c18140400b13914000c17535600b13914000c17535600b
 13914000c18140400b13309200c18140400b13309200c18140400b13914000c17535600b13914000c17535600b
 13914000c17535600b13914000c18140400b13309200c18140400b13309200c18140400b13914000c17535600b
 13914000c17535600b13914000c18140400b13309200c18140400b13309200c18140400b11494800c20559600b
 10890000c20559600b10890000c20559600b11494800c @-21600,-18000,3,2,0,7200,11,1,0,7200
America/North_Dakota/Center -24312,-25200,-21600,-18000
 -2717643600b1084370400c18140400b13309200c18140400b703472400c114822000b681008400c15721200b
 15728400c15721200b15728400c15721200b15728400c15721200b15728400c16326000b15728400c15721200b
 15728400c15721200b6051600c25398000b10285200c21164400b15728400c16326000b15123600c16326000b
 15728400c15721200b15728400c15721200b15728400c15721200b15728400c15721200b15728400c16326000b
 15123600c16326000b15728400c15721200b15728400c15721200b15728400c15721200b13914000c17535600b
 13914000c18140400b13309200c18140400b13309200c18140400b13914000c17535600b13914000c31446000d
 18140400c13309200d18140400c13309200d18140400c13914000d17535600c13914000d17535600c13914000d
 17535600c13914000d18140400c13309200d18140400c13309200d18140400c13914000d17535600c13914000d
 17535600c13914000d18140400c13309200d18140400c13309200d18140400c
 @-21600,-18000,3,2,0,7200,11,1,0,7200
America/North_Dakota/New_Salem -24339,-25200,-21600,-18000
 -2717643600b1084370400c18140400b13309200c18140400b703472400c114822000b681008400c15721200b
 15728400c15721200b15728400c15721200b15728400c15721200b15728400c16326000b15728400c15721200b
 15728400c15721200b6051600c25398000b10285200c21164400b15728400c16326000b15123600c16326000b
 15728400c15721200b15728400c15721200b15728400c15721200b15728400c15721200b15728400c16326000b
 15123600c16326000b15728400c15721200b15728400c15721200b15728400c15721200b13914000c17535600b
 13914000c18140400b13309200c18140400b13309200c18140400b13914000c17535600b13914000c17535600b
 13914000c18140400b13309200c18140400b13309200c18140400b13914000c17535600b13914000c17535600b
 13914000c17535600b13914000c18140400b13309200c18140400b13309200c18140400b13914000c17535600b
 13914000c31446000d18140400c13309200d18140400c13309200d18140400c
 @-21600,-18000,3,2,0,7200,11,1,0,7200
America/Nuuk -12416,-10800,-7200
 -1686083584b2009928784c15105600b15724800c15724800b15724800c15724800b15724800c15724800b
 15724800c16329600b15724800c15724800b15724800c15724800b15724800c15724800b15724800c15724800b
 15724800c15724800b15724800c16329600b15724800c15724800b15724800c15724800b15724800c15724800b
 15724800c15724800b15724800c15724800b16329600c18144000b13305600c18144000b13305600c18144000b
 13305600c18748800b12700800c18748800b12700800c18748800b13305600c18144000b13305600c18144000b
 13305600c18748800b12700800c18748800b12700800c18748800b12700800c18748800b13305600c18144000b
 13305600c18144000b13305600c18748800b12700800c18748800b12700800c18748800b13305600c18144000b
 13305600c18144000b13305600c18144000b13305600c18748800b12700800c18748800b12700800c18748800b
 13305600c18144000b13305600c18144000b13305600c18748800b12700800c18748800b12700800c
 @-7200,-3600,3,5,0,-3600,10,5,0,0
America/Ojinaga -25060,-25200,-21600,-18000
 -1514739600b171590400c108342000b14346000c13302000b15814800c2020208400d17535600c13914000d
 17535600c31453200b13914000c18140400b13309200c18140400b16333200c12697200b16333200c17535600b
 13914000c17535600b13914000c18140400b13309200c18140400b13309200c18140400b13309200c18140400b
 13914000c17535600b13914000c17535600b12099600c20559600b10890000c20559600b10890000c20559600b
 10890000c20559600b10890000c20559600b10890000c20559600b11494800c20559600b10890000c20559600b
 10890000c20559600b10890000c20559600b10890000c20559600b11494800c20559600b10890000c
 @-21600,-18000,3,2,0,7200,11,1,0,7200
America/Panama -19088,-19176,-18000 -2524502512b577584088c
America/Pangnirtung =America/Iqaluit
America/Paramaribo -13240,-13252,-13236,-12600,-10800 -1861906760b757382412c339206384d1230767364e
America/Phoenix -26898,-25200,-21600
 -2717643600b1084370400c18140400b13309200c18140400b703472400c59691660b7866000c15807600b
 712465140c15721200b
America/Port-au-Prince -17360,-17340,-18000,-14400
 -2524504240b854020780c2091701460d15116400c15728400d15721200c15728400d15721200c15728400d
 15721200c15728400d15721200c13917600d18144000c13305600d18144000c13305600d18144000c13910400d
 17539200c13910400d17539200c13910400d18144000c13305600d18144000c13305600d18144000c13910400d
 17539200c13910400d17539200c234658800d18140400c13309200d18140400c169354800d20559600c
 10890000d20559600c10890000d20559600c10890000d20559600c42944400d
 @-18000,-14400,3,2,0,7200,11,1,0,7200
America/Port_of_Spain -14764,-14400 -1825098836b
America/Porto_Acre =America/Rio_Branco
America/Porto_Velho -15336,-14400,-10800
 -1767210264b560256264c15595200b15987600c15548400b526006800c11750400b19785600c10450800b
 21085200c10537200b21085200c7772400b339987600c7167600b29034000c5094000b21171600c7772400b
 21171600c10364400b21171600c10450800b557715600c11487600b19357200c9673200b21862800c9068400b
America/Puerto_Rico -15865,-14400,-10800 -2233035335b1359977735c107658000b
America/Punta_Arenas -17020,-16965,-18000,-14400,-10800
 -2524504580b631843145c204250635b69205365d25399035b257820165d18400635c13222800d18313200c
 13222800d18313200c13222800d18313200c13222800d18399600c13222800d307580400c5274000d
 147222000c4406400d677030400e12697200d20566800e10882800d16938000e13302000d18147600e
 13302000d18752400e12697200d17542800e13906800d18752400e12697200d18752400e13302000d18147600e
 13302000d18147600e13302000d18752400e12697200d18752400e12697200d18752400e13302000d18147600e
 13302000d18147600e13302000d18147600e13302000d18752400e12697200d18752400e12697200d18752400e
 15721200d15728400e13302000d18147600e13302000d18752400e12697200d16333200e15116400d18752400e
 13302000d18147600e13302000d18147600e13302000d18147600e13302000d18752400e12697200d18752400e
 14511600d16938000e13302000d16938000e16326000d16333200e13302000d18752400e12697200d18752400e
 12697200d18752400e12697200d18752400e13302000d18147600e13302000d18147600e13302000d18752400e
 12697200d18752400e14511600d16938000e13302000d18147600e15116400d16333200e18140400d9075600e
 21769200d10890000e20559600d11494800e19954800d11494800e53218800d7866000e
America/Rainy_River =America/Winnipeg
America/Rankin_Inlet 0,-21600,-18000
 -410227200b483696000c15721200b15728400c15721200b15728400c15721200b15728400c15721200b
 15728400c16326000b15123600c16326000b15728400c15721200b15728400c15721200b15728400c15721200b
 15728400c15721200b15728400c16326000b15123600c16326000b15728400c15721200b15728400c15721200b
 15728400c15721200b13914000c17535600b13914000c18140400b13309200c18140400b13309200c18140400b
 13914000c17535600b13914000c17535600b13914000c18140400b13309200c18140400b13309200c18140400b
 13914000c17535600b13914000c17535600b13914000c17535600b13914000c18140400b13309200c49590000b
 13914000c17535600b13914000c17535600b13914000c18140400b13309200c18140400b13309200c18140400b
 @-21600,-18000,3,2,0,7200,11,1,0,7200
America/Recife -8376,-10800,-7200
 -1767217224b560259624c15595200b15987600c15548400b526006800c11750400b19785600c10450800b
 21085200c10537200b21085200c7772400b339987600c7167600b29034000c5094000b21171600c7772400b
 21171600c10364400b21171600c10450800b557715600c11487600b19357200c9673200b21862800c9068400b
 21776400c9068400b22381200c10278000b304218000c12697200b19357200c601200b31453200c10882800b
America/Regina -25116,-25200,-21600
 -2030202084b398138484c16930800b363481200c13302000b18147600c13302000b18147600c13302000b
 18752400c12697200b18752400c13302000b79232400c15721200b15728400c15116400b16333200c15721200b
 16333200c15721200b15728400c15721200b10378800c114822000b16938000c15721200b16938000c
 13302000b18147600c13302000b18147600c13302000b18752400c12697200b18752400c13302000b18147600c
 13302000b18147600c13302000b18147600c13302000b18147600c13302000b18752400c13302000b18147600c
 13302000b49597200c15721200b15728400c
America/Resolute 0,-21600,-18000
 -704937600b778406400c15721200b15728400c15721200b15728400c15721200b15728400c15721200b
 15728400c16326000b15123600c16326000b15728400c15721200b15728400c15721200b15728400c15721200b
 15728400c15721200b15728400c16326000b15123600c16326000b15728400c15721200b15728400c15721200b
 15728400c15721200b13914000c17535600b13914000c18140400b13309200c18140400b13309200c18140400b
 13914000c17535600b13914000c17535600b13914000c18140400b13309200c18140400b13309200c18140400b
 13914000c17535600b13914000c17535600b13914000c17535600b13914000c18140400b13309200c49590000b
 13914000c17535600b13914000c17535600b13914000c18140400b13309200c18140400b13309200c50194800b
 @-21600,-18000,3,2,0,7200,11,1,0,7200
America/Rio_Branco -16272,-18000,-14400
 -1767209328b560258928c15595200b15987600c15548400b526006800c11750400b19785600c10450800b
 21085200c10537200b21085200c7772400b339987600c7167600b29034000c5094000b21171600c7772400b
 21171600c10364400b21171600c10450800b557715600c11487600b19357200c9673200b21862800c9068400b
 643078800c169772400b
America/Rosario =America/Argentina/Cordoba
America/Santa_Isabel =America/Tijuana
America/Santarem -13128,-14400,-10800
 -1767212472b560258472c15595200b15987600c15548400b526006800c11750400b19785600c10450800b
 21085200c10537200b21085200c7772400b339987600c7167600b29034000c5094000b21171600c7772400b
 21171600c10364400b21171600c10450800b557715600c11487600b19357200c9673200b21862800c9068400b
 643078800c
America/Santiago -16965,-18000,-14400,-10800
 -1892661435b204250635a69205365c25399035a257820165c18400635b13222800c18313200b13222800c
 18313200b13222800c18313200b13222800c18399600b13222800c307580400b5274000c124758000d3884400c
 18579600b4406400c677030400d12697200c20566800d10882800c16938000d13302000c18147600d13302000c
 18752400d12697200c17542800d13906800c18752400d12697200c18752400d13302000c18147600d13302000c
 18147600d13302000c18752400d12697200c18752400d12697200c18752400d13302000c18147600d13302000c
 18147600d13302000c18147600d13302000c18752400d12697200c18752400d12697200c18752400d15721200c
 15728400d13302000c18147600d13302000c18752400d12697200c16333200d15116400c18752400d13302000c
 18147600d13302000c18147600d13302000c18147600d13302000c18752400d12697200c18752400d14511600c
 16938000d13302000c16938000d16326000c16333200d13302000c18752400d12697200c18752400d12697200c
 18752400d12697200c18752400d13302000c18147600d13302000c18147600d13302000c18752400d12697200c
 18752400d14511600c16938000d13302000c18147600d15116400c16333200d18140400c9075600d21769200c
 10890000d20559600c11494800d19954800c11494800d53218800c7866000d23583600c7866000d23583600c
 7866000d20559600c13309200d18140400c13309200d18140400c13309200d18140400c13914000d
 @-14400,-10800,9,1,6,86400,4,1,6,86400
America/Santo_Domingo -16776,-16800,-18000,-14400,-16200
 -2524504824b1364731224c1059654000d10450800c83898000e10193400c21256200e7515000c24539400e
 7083000c24366600e7255800c24193800e7342200c24107400d820717200c3024000d
America/Sao_Paulo -11188,-10800,-7200
 -1767214412b560256812c15595200b15987600c15548400b526006800c11750400b19785600c10450800b
 21085200c10537200b21085200c7772400b335926800c11228400b29034000c5094000b21171600c7772400b
 21171600c10364400b21171600c10450800b557715600c11487600b19357200c9673200b21862800c9068400b
 21776400c9068400b22381200c10278000b21776400c10278000b21171600c9673200b22381200c8463600b
 22381200c10882800b20566800c10882800b20566800c10278000b20566800c11487600b20048400c12610800b
 19357200c11487600b19357200c12697200b19357200c11487600b20566800c10882800b22381200c9068400b
 21171600c10278000b22554000c9500400b20566800c10882800b22381200c9673200b19962000c10882800b
 21171600c10278000b21171600c10882800b20566800c10882800b20566800c11487600b20566800c10278000b
 21171600c10278000b21171600c10882800b20566800c10882800b20566800c10882800b20566800c10882800b
 22381200c9068400b
America/Scoresbysund -5272,-7200,-3600,0
 -1686090728b2009932328c15120000b15717600d15721200c15724800d15724800c15724800d15724800c
 15724800d16329600c15724800d15724800c15724800d15724800c15724800d15724800c15724800d15724800c
 15724800d15724800c15724800d16329600c15724800d15724800c15724800d15724800c15724800d15724800c
 15724800d15724800c15724800d15724800c16329600d18144000c13305600d18144000c13305600d18144000c
 13305600d18748800c12700800d18748800c12700800d18748800c13305600d18144000c13305600d18144000c
 13305600d18748800c12700800d18748800c12700800d18748800c12700800d18748800c13305600d18144000c
 13305600d18144000c13305600d18748800c12700800d18748800c12700800d18748800c13305600d18144000c
 13305600d18144000c13305600d18144000c13305600d18748800c12700800d18748800c12700800d18748800c
 13305600d18144000c13305600d18144000c13305600d18748800c12700800d18748800c12700800d18748800c
 @-7200,-3600,3,5,0,-3600,10,5,0,0
America/Shiprock =America/Denver
America/Sitka 53927,-32473,-28800,-25200,-32400
 -3225223727b1036269000c1308747527d114822000c743907600d15721200c15728400d15721200c15728400d
 16326000c15728400d15721200c15728400d15721200c6051600d25398000c10285200d21164400c15728400d
 16326000c15123600d16326000c15728400d15721200c15728400d15721200c15728400d15721200c15728400d
 15721200c15728400d16326000c15123600d16326000e15732000c15721200e15728400c15721200e15728400c
 15721200e13914000c17535600e13914000c18140400e13309200c18140400e13309200c18140400e13914000c
 17535600e13914000c17535600e13914000c18140400e13309200c18140400e13309200c18140400e13914000c
 17535600e13914000c17535600e13914000c17535600e13914000c18140400e13309200c18140400e13309200c
 18140400e13914000c17535600e13914000c17535600e13914000c18140400e13309200c18140400e13309200c
 18140400e @-32400,-28800,3,2,0,7200,11,1,0,7200
America/St_Barthelemy =America/Port_of_Spain
America/St_Johns -12652,-9052,-12600,-9000,-5400
 -1664130548b13993200a18061200b16930800a16495200b8550000a22813200b15721200a15728400b
 15721200a16333200b15116400a16333200b15116400a16333200b15116400a16333200b15116400a16333200b
 15721200a15728400b15721200a16333200b15116400a16333200b15116400a16333200b15116400a16333200b
 15116400a16333200b15721200a16333200b15116400a16333200b15116400a13140000c3193148d15116400c
 16941600d12697200c18752400d12697200c18752400d12697200c19357200d12092400c19357200d12697200c
 18752400d12697200c18752400d106966800c19357200d12697200c18752400d12697200c18752400d
 12697200c18752400d12697200c19357200d12697200c17542800d13302000c18147600d13302000c18147600d
 13302000c18147600d13302000c18147600d13302000c18752400d13302000c18147600d13302000c18147600d
 13302000c18147600d13302000c18147600d16326000c15728400d15721200c15728400d15721200c15728400d
 15721200c15728400d15721200c15728400d16326000c15123600d16326000c15728400d15721200c15728400d
 15721200c15728400d15721200c15728400d15721200c15728400d16326000c15728400d15721200c15728400d
 15721200c15728400d15721200c15728400d15721200c15728400d16326000c15123600d16326000c15728400d
 15721200c15728400d15721200c15728400d15721200c15728400d15721200c15728400d16326000c15123600d
 16326000c15728400d15721200c15728400d15721200c15728400d15721200c13906860d17535600c13914000e
 18136800c13312800d18140400c13309200d18140400c13914000d17535600c13914000d17535600c13914000d
 18140400c13309200d18140400c13309200d18140400c13914000d17535600c13914000d17535600c13914000d
 17535600c13914000d18140400c13309200d18140400c13309200d18140400c13914000d17535600c13914000d
 17535600c13914000d18140400c13309200d18140400c13309200d18140400c11494800d20559600c10890000d
 20559600c10890000d20559600c11494800d20559600c10890000d @-12600,-9000,3,2,0,7200,11,1,0,7200
America/St_Kitts -15052,-14400 -1825098548b
America/St_Lucia -14640,-14400 -1830369360b
America/St_Thomas -15584,-14400 -1846266016b
America/St_Vincent -14696,-14400 -1830369304b
America/Swift_Current -25880,-25200,-21600
 -2030201320b398137720c16930800b734922000c114822000b18147600c14511600b16938000c13302000b
 18147600c13302000b18147600c13302000b239504400c15721200b47178000c15721200b15728400c
 13302000b18752400c12697200b334458000c
America/Tegucigalpa -20932,-21600,-18000
 -1538503868b2085523868c12697200b18752400c12697200b555814800c7945200b
America/Thule -16508,-14400,-10800
 -1686079492b2356478692c15721200b15728400c15721200b16333200c18140400b13309200c18140400b
 13309200c18140400b13914000c17535600b13914000c17535600b13914000c17535600b13914000c18140400b
 13309200c18140400b13309200c18140400b13914000c17535600b13914000c17535600b13914000c18140400b
 13309200c18140400b13309200c18140400b @-14400,-10800,3,2,0,7200,11,1,0,7200
America/Thunder_Bay =America/Toronto
America/Tijuana -28084,-25200,-28800
 -1514739600b63072000c108522000b108342000c11840400b15721200c333421200b112402800c75344400b
 24534000c40784400b12610800c18759600b13302000c18147600b13302000c18144000b13305600c18144000b
 13305600c18144000b13305600c18748800b13305600c18144000b13305600c18144000b13305600c18144000b
 13305600c18144000b13305600c18748800b12700800c18748800b15724800c15724800b15724800c15724800b
 15724800c15724800b16329600c15120000b16329600c15728400b15721200c15728400b15721200c15728400b
 15721200c15728400b15721200c15728400b16326000c15728400b15721200c15728400b15721200c6051600b
 25398000c10285200b21164400c15728400b16326000c15123600b16326000c15728400b15721200c15728400b
 15721200c15728400b15721200c15728400b15721200c15728400b16326000c15123600b16326000c15728400b
 15721200c15728400b15721200c15728400b15721200c13914000b17535600c13914000b18140400c13309200b
 18140400c13309200b18140400c13914000b17535600c13914000b17535600c13914000b18140400c13309200b
 18140400c13309200b18140400c13914000b17535600c13914000b17535600c13914000b17535600c13914000b
 18140400c13309200b18140400c13309200b18140400c13914000b17535600c13914000b17535600c13914000b
 18140400c13309200b18140400c13309200b18140400c13309200b18140400c13914000b17535600c13914000b
 17535600c @-28800,-25200,3,2,0,7200,11,1,0,7200
America/Toronto -19052,-18000,-14400
 -2366736148b734665348c16930800b13386600c18055800b16340400c12690000b19969200c10623600b
 20826000c10882800b20566800c10882800b19962000c12092400b19357200c12092400b19357200c12092400b
 19357200c12697200b18752400c13302000b18147600c13302000b18147600c13302000b18147600c13302000b
 18752400c12697200b18752400c13302000b18147600c13302000b18147600c13302000b18147600c13302000b
 18147600c13302000b18147600c13302000b18752400c12697200b18752400c171154800b18147600c
 13302000b18147600c13302000b18147600c13302000b18147600c18745200b13309200c18140400b13309200c
 13302000b18147600c13302000b18147600c13302000b18147600c13302000b18147600c13302000b18752400c
 13302000b18147600c15721200b15728400c15721200b15728400c15721200b15728400c16326000b15728400c
 15721200b15728400c15721200b15728400c15721200b15728400c15721200b15728400c16326000b15123600c
 16326000b15728400c15721200b15728400c15721200b15728400c15721200b15728400c15721200b15728400c
 16326000b15728400c15721200b15728400c15721200b15728400c15721200b15728400c15721200b15728400c
 16326000b15123600c16326000b15728400c15721200b15728400c15721200b15728400c15721200b15728400c
 15721200b15728400c16326000b15123600c16326000b15728400c15721200b15728400c15721200b15728400c
 15721200b13914000c17535600b13914000c18140400b13309200c18140400b13309200c18140400b13914000c
 17535600b13914000c17535600b13914000c18140400b13309200c18140400b13309200c18140400b13914000c
 17535600b13914000c17535600b13914000c17535600b13914000c18140400b13309200c18140400b13309200c
 18140400b13914000c17535600b13914000c17535600b13914000c18140400b13309200c18140400b13309200c
 18140400b @-18000,-14400,3,2,0,7200,11,1,0,7200
America/Tortola -15508,-14400 -1846266092b
America/Vancouver -29548,-28800,-25200
 -2713880852b1081820852c16930800b734922000c114822000b18147600c13302000b18147600c13302000b
 18147600c13302000b18147600c13302000b18752400c12697200b18752400c13302000b18147600c13302000b
 18147600c13302000b18147600c13302000b18147600c13302000b18752400c13302000b18147600c13302000b
 18147600c13302000b18147600c13302000b18147600c13302000b18752400c12697200b18752400c15721200b
 15728400c15721200b15728400c15721200b15728400c16326000b15123600c16326000b15728400c15721200b
 15728400c15721200b15728400c15721200b15728400c15721200b15728400c16326000b15728400c15721200b
 15728400c15721200b15728400c15721200b15728400c15721200b15728400c16326000b15123600c16326000b
 15728400c15721200b15728400c15721200b15728400c15721200b15728400c15721200b15728400c16326000b
 15123600c16326000b15728400c15721200b15728400c15721200b15728400c15721200b13914000c17535600b
 13914000c18140400b13309200c18140400b13309200c18140400b13914000c17535600b13914000c17535600b
 13914000c18140400b13309200c18140400b13309200c18140400b13914000c17535600b13914000c17535600b
 13914000c17535600b13914000c18140400b13309200c18140400b13309200c18140400b13914000c17535600b
 13914000c17535600b13914000c18140400b13309200c18140400b13309200c18140400b
 @-28800,-25200,3,2,0,7200,11,1,0,7200
America/Virgin =America/St_Thomas
America/Whitehorse -32412,-32400,-28800,-25200
 -2188997988b556941588c16930800b18147600c13813200b702961200c114822000b617497200d16329600b
 10281600c446950800d15721200c15728400d15721200c15728400d16326000c15123600d16326000c
 15728400d15721200c15728400d15721200c15728400d15721200c13914000d17535600c13914000d18140400c
 13309200d18140400c13309200d18140400c13914000d17535600c13914000d17535600c13914000d18140400c
 13309200d18140400c13309200d18140400c13914000d17535600c13914000d17535600c13914000d17535600c
 13914000d18140400c13309200d18140400c13309200d18140400c13914000d17535600c13914000d17535600c
 13914000d18140400c13309200d18140400c13309200d18140400c11494800d20559600c10890000d20559600c
 10890000d20559600c11494800d20559600c10890000d20559600c10890000d20559600c10890000d20559600c
 10890000d20559600c10890000d20559600c11494800d20559600c10890000d20559600c10890000d20559600c
 10890000d20559600c10890000d
America/Winnipeg -23316,-21600,-18000
 -2602258284b907889484c12697200b49604400c16930800b585450000c11487600b137984400c114822000b
 19357200c13302000b16938000c13302000b18147600c13302000b18147600c13302000b18838800c13129200b
 18234000c13302000b18147600c13302000b18147600c13302000b18147600c13302000b18147600c13302000b
 18752400c13302000b18147600c13302000b18147600c13302000b18147600c15721200b15728400c13302000b
 81651600c12697200b81651600c16329600b15724800c15724800b15724800c15724800b15724800c15724800b
 15724800c15724800b15724800c16329600b15724800c15724800b15724800c15724800b15724800c15724800b
 15724800c15724800b15724800c16329600b15120000c16329600b15724800c15724800b15724800c15724800b
 15724800c15724800b15724800c15724800b15724800c16329600b15120000c16329600b15724800c15724800b
 15724800c15724800b15724800c15724800b13910400c17539200b13910400c18144000b13305600c18144000b
 13305600c18144000b13910400c17539200b13910400c17539200b13910400c18144000b13305600c18144000b
 13305600c18144000b13910400c17539200b13910400c17539200b13910400c17539200b13910400c18144000b
 13305600c18144000b13305600c18144000b13910400c17539200b13910400c17539200b13910400c18144000b
 13305600c18144000b13305600c18140400b @-21600,-18000,3,2,0,7200,11,1,0,7200
America/Yakutat 52865,-33535,-32400,-28800
 -3225223727b1036270062c1308750065d114822000c743907600d15721200c15728400d15721200c15728400d
 16326000c15728400d15721200c15728400d15721200c6051600d25398000c10285200d21164400c15728400d
 16326000c15123600d16326000c15728400d15721200c15728400d15721200c15728400d15721200c15728400d
 15721200c15728400d16326000c15123600d16326000c15728400d15721200c15728400d15721200c15728400d
 15721200c13914000d17535600c13914000d18140400c13309200d18140400c13309200d18140400c13914000d
 17535600c13914000d17535600c13914000d18140400c13309200d18140400c13309200d18140400c13914000d
 17535600c13914000d17535600c13914000d17535600c13914000d18140400c13309200d18140400c13309200d
 18140400c13914000d17535600c13914000d17535600c13914000d18140400c13309200d18140400c13309200d
 18140400c @-32400,-28800,3,2,0,7200,11,1,0,7200
America/Yellowknife =America/Edmonton
Brazil/Acre =America/Rio_Branco
Brazil/DeNoronha =America/Noronha
Brazil/East =America/Sao_Paulo
Brazil/West =America/Manaus
Canada/Atlantic =America/Halifax
Canada/Central =America/Winnipeg
Canada/Eastern =America/Toronto
Canada/Mountain =America/Edmonton
Canada/Newfoundland =America/St_Johns
Canada/Pacific =America/Vancouver
Canada/Saskatchewan =America/Regina
Canada/Yukon =America/Whitehorse
Chile/Continental =America/Santiago
Chile/EasterIsland =Pacific/Easter
Mexico/BajaNorte =America/Tijuana
Mexico/BajaSur =America/Mazatlan
Mexico/General =America/Mexico_City
US/Alaska =America/Anchorage
US/Aleutian =America/Adak
US/Arizona =America/Phoenix
US/Central =America/Chicago
US/East-Indiana =America/Indiana/Indianapolis
US/Eastern =America/New_York
US/Hawaii =Pacific/Honolulu
US/Indiana-Starke =America/Indiana/Knox
US/Michigan =America/Detroit
US/Mountain =America/Denver
US/Pacific =America/Los_Angeles
US/Samoa =Pacific/Pago_Pago"

end NodeSidecar.Zone.Table
